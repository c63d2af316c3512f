import BlockStorage.Proofs.Lifecycle.Reading
import BlockStorage.Proofs.Lifecycle.Restraint
import BlockStorage.Proofs.Lifecycle.Sighting

/-!
# What is absent

What a handle names may be gone at any time, also between two requests of one flow.
A request that misses it gives a negative answer, or counts as done where the
resource was to be removed anyway. Two requests are not guarded so: their failures
leave the operation as they are.

* `Operation.named`, `Request.addresses`: the resources that arguments and requests are
  about.
* `Exchange.Misses`: a request has missed what an argument names.
* `Lifecycle.MissEnds`: how an operation ends then.
* `Wait.Course.of_failed`: a fetch that fails ends its wait.
* `Lifecycle.miss_ends`: every miss of every operation, over gateways that fail in no
  other way.
-/

namespace BlockStorage

/-! ## Resources -/

/-- What a handle may name. -/
inductive Resource
  | volume (h : Handle)
  | snapshot (h : Handle)
  | node (h : Handle)
  deriving DecidableEq

def Resource.handle : Resource → Handle
  | volume h | snapshot h | node h => h

/-- The resource of a kind that a text names, if the text is a handle. -/
def Resource.namedBy (kind : Handle → Resource) (text : String) : List Resource :=
  ((Handle.decode text).toOption.map kind).toList

/-- The resources that the arguments of an operation name. -/
def Operation.named : Operation → List Resource
  | createVolume _ (.zonedVolume o) =>
    (o.snapshotId.map (Resource.namedBy .snapshot)).getD []
  | attachVolume volume node _ => Resource.namedBy .volume volume ++ Resource.namedBy .node node
  | detachVolume volume options =>
    Resource.namedBy .volume volume ++
      (((Lifecycle.detachTarget options).toOption.bind (·.nodeId)).map
        (Resource.namedBy .node)).getD []
  | removeVolume volume | getVolume volume | createSnapshot volume _ | listSnapshotsOf volume =>
    Resource.namedBy .volume volume
  | deleteSnapshot snapshot | getSnapshot snapshot => Resource.namedBy .snapshot snapshot
  | listVolumesOf node => Resource.namedBy .node node
  | _ => []

/-- Whether an operation is to make something go away, which may be gone already. -/
def Operation.removes : Operation → Bool
  | detachVolume _ _ | removeVolume _ | deleteSnapshot _ => true
  | _ => false

/-- Nothing is asked of the answer of an operation that makes something go away. -/
theorem Operation.unasked_of_removes {op : Operation} (hop : op.removes = true) {a : op.Answer}
    (h : op.removes = false) : a = op.negative := by
  rw [hop] at h
  cases h

/-- The resources that a request is about; one that lists a scope is about none. -/
def Request.addresses : Request → List Resource
  | describeVolumes scope ids => ids.map fun id => .volume ⟨scope, id⟩
  | restoreVolume scope snapshot _ _ => [.snapshot ⟨scope, snapshot⟩]
  | deleteVolume scope volume | createSnapshot scope volume _ => [.volume ⟨scope, volume⟩]
  | attachVolume scope volume node _ => [.volume ⟨scope, volume⟩, .node ⟨scope, node⟩]
  | detachVolume scope volume _ _ node =>
    .volume ⟨scope, volume⟩ :: (node.map fun n => .node ⟨scope, n⟩).toList
  | describeSnapshots scope ids volume =>
    ((ids.getD []).map fun id => .snapshot ⟨scope, id⟩) ++
      (volume.map fun v => .volume ⟨scope, v⟩).toList
  | deleteSnapshot scope snapshot => [.snapshot ⟨scope, snapshot⟩]
  | listScopes | createVolume _ _ _ => []

/-- Whether the failure of a request leaves the flow that makes it, also where it says that a
resource is missing. -/
def Request.isUnguarded : Request → Bool
  | restoreVolume _ _ _ _ => true
  | describeSnapshots _ none (some _) => true
  | _ => false

/-- Whether a request fails only because a resource is missing. -/
def Exchange.FailsByAbsence (x : Exchange) : Prop :=
  ∀ f, x.outcome = .error f → f.isNotFound = true

/-- Whether a request has missed a resource that an argument names. -/
def Exchange.Misses (op : Operation) (x : Exchange) : Prop :=
  (∃ resource ∈ x.request.addresses, resource ∈ op.named) ∧
    ∃ f, x.outcome = .error f ∧ f.isNotFound = true

theorem Exchange.not_misses_of_ok {op : Operation} {r : Request} {answer : r.Answer} :
    ¬ Exchange.Misses op ⟨r, .ok answer⟩ := by
  rintro ⟨-, f, hf, -⟩
  cases hf

/-! ## Fetches that fail -/

/-- A fetch that fails ends its wait: well, if the wait is for something to be gone and it is
gone. -/
theorem Wait.Course.of_failed {τ σ : Type} [Viewed τ] {w : Wait τ}
    {Fetches : τ → List σ → Except Fault τ → Prop} {P : σ → Prop} {Q : Fault → Prop}
    (hfetch : ∀ t es r, Fetches t es r → (∃ e ∈ es, P e) → ∃ why, r = .error why ∧ Q why)
    {left used total : Nat} {first : τ} {es : List σ} {ending : Ending τ}
    (h : w.Course Fetches left used first es ending total) (hes : ∃ e ∈ es, P e) :
    ∃ why, Q why ∧ ((ending = .gone ∧ w.goneIsReady = true) ∨
      (ending = .stopped why ∧ ¬ (why.isNotFound = true ∧ w.goneIsReady = true))) := by
  induction h with
  | gone _ hlook hgone =>
    obtain ⟨why, -, hQ⟩ := hfetch _ _ _ hlook hes
    exact ⟨why, hQ, Or.inl ⟨rfl, hgone.2⟩⟩
  | broken _ hlook hgone =>
    obtain ⟨why, hwhy, hQ⟩ := hfetch _ _ _ hlook hes
    obtain rfl := Except.error.inj hwhy
    exact ⟨_, hQ, Or.inr ⟨rfl, hgone⟩⟩
  | fetched _ hlook _ ih =>
    obtain ⟨e, he, hP⟩ := hes
    rcases List.mem_append.mp he with he | he
    · obtain ⟨why, hwhy, -⟩ := hfetch _ _ _ hlook ⟨e, he, hP⟩
      cases hwhy
    · exact ih ⟨e, he, hP⟩
  | _ => exact absurd hes fun ⟨_, he, _⟩ => List.not_mem_nil he

namespace Lifecycle

variable {γ : Type} {c : Lifecycle γ}

/-! ## How a miss ends -/

/-- A flow is refused because a resource that a request is about cannot be named by a handle. -/
def Unnameable {α : Type} (xs : List Exchange) (r : Except Fault α) : Prop :=
  ∃ x ∈ xs, ∃ resource ∈ x.request.addresses, ∃ why,
    resource.handle.encoded = .error why ∧ r = .error (.argument why)

/-- How an operation ends in which a request has missed what an argument names: negatively, or with
any answer if it was to make something go away. The failure of an unguarded request passes. -/
structure MissEnds (op : Operation) (xs : List Exchange) (x : Exchange)
    (r : Except Fault op.Answer) : Prop where
  guarded : x.request.isUnguarded = false →
    (∃ a, r = .ok a ∧ (op.removes = false → a = op.negative)) ∨ Unnameable xs r
  unguarded : x.request.isUnguarded = true → ∀ f, x.outcome = .error f → r = .error f

/-- Every miss ends so. -/
def Graceful (op : Operation) (xs : List Exchange) (r : Except Fault op.Answer) : Prop :=
  ∀ x ∈ xs, x.Misses op → MissEnds op xs x r

namespace Graceful

variable {op : Operation} {xs : List Exchange} {r : Except Fault op.Answer} {x : Exchange}

theorem of_no_miss (h : ∀ x ∈ xs, ¬ x.Misses op) : Graceful op xs r :=
  fun x hx hmiss => absurd hmiss (h x hx)

/-- Guarded requests and a proper answer. -/
theorem of_guarded (hxs : ∀ x ∈ xs, x.request.isUnguarded = false)
    (h : (∃ a, r = .ok a ∧ (op.removes = false → a = op.negative)) ∨ Unnameable xs r) :
    Graceful op xs r := by
  refine fun x hx _ => ⟨fun _ => h, fun hun => ?_⟩
  rw [hxs x hx] at hun
  cases hun

/-- A request before that misses nothing. -/
theorem cons (h : Graceful op xs r) (hx : ¬ x.Misses op) : Graceful op (x :: xs) r := by
  intro y hy hmiss
  rcases List.mem_cons.mp hy with rfl | hy
  · exact absurd hmiss hx
  · obtain ⟨hguarded, hunguarded⟩ := h y hy hmiss
    refine ⟨fun hg => ?_, hunguarded⟩
    rcases hguarded hg with hok | ⟨z, hz, hname⟩
    · exact Or.inl hok
    · exact Or.inr ⟨z, List.mem_cons_of_mem _ hz, hname⟩

end Graceful

/-! ## Openings -/

theorem graceful_of_admitted {δ : Type} {op : Operation} {arguments : Except Fault δ}
    {Rest : δ → List Exchange → Except Fault op.Answer → Prop} {xs : List Exchange}
    {r : Except Fault op.Answer} (h : Admitted arguments Rest xs r)
    (hrest : ∀ d, arguments = .ok d → Rest d xs r → Graceful op xs r) : Graceful op xs r := by
  cases h with
  | refused _ => exact .of_no_miss fun x hx => absurd hx List.not_mem_nil
  | admitted hargs hd => exact hrest _ hargs hd

/-- A look that misses its resource ends the operation negatively. -/
theorem graceful_of_opened {ρ : Type} {op : Operation} {look : Exchange}
    {found : Except Fault (Option ρ)}
    {Rest : ρ → List Exchange → Except Fault op.Answer → Prop} {xs : List Exchange}
    {r : Except Fault op.Answer} (h : Opened look found op.negative Rest xs r)
    (hlook : look.request.isUnguarded = false) (hlost : ∀ f, found ≠ .error f)
    (hfound : ∀ a, found = .ok (some a) → ¬ look.Misses op)
    (hrest : ∀ a ys, (∀ y ∈ ys, y ∈ xs) → Rest a ys r → Graceful op ys r) : Graceful op xs r := by
  cases h with
  | lost hf => exact absurd hf (hlost _)
  | missing _ =>
    refine .of_guarded (fun x hx => ?_) (Or.inl ⟨op.negative, rfl, fun _ => rfl⟩)
    rw [List.mem_singleton.mp hx]
    exact hlook
  | found ha hr =>
    exact (hrest _ _ (fun y hy => List.mem_cons_of_mem _ hy) hr).cons (hfound _ ha)

/-- A look that fails by absence only finds something or nothing. -/
theorem orNone_map_ne_error {α β : Type} {g : Option α → Option β} {outcome : Except Fault α}
    (h : ∀ f, outcome = .error f → f.isNotFound = true) (f : Fault) :
    (orNone outcome).map g ≠ .error f := by
  intro hf
  cases outcome with
  | ok answer => cases hf
  | error why =>
    rw [orNone, if_pos (h why rfl)] at hf
    cases hf

theorem graceful_of_openedByVolume {op : Operation} {h : Handle}
    {Rest : RemoteVolume → List Exchange → Except Fault op.Answer → Prop} {xs : List Exchange}
    {r : Except Fault op.Answer} (hstory : OpenedByVolume h op.negative Rest xs r)
    (hxs : ∀ x ∈ xs, x.FailsByAbsence)
    (hrest : ∀ v ys, (∀ y ∈ ys, y.FailsByAbsence) → Rest v ys r → Graceful op ys r) :
    Graceful op xs r := by
  obtain ⟨outcome, hopened⟩ := hstory
  have hlook : (⟨.describeVolumes h.scope [h.localId], outcome⟩ : Exchange) ∈ xs := by
    cases hopened <;> exact List.mem_cons_self
  refine graceful_of_opened hopened rfl (orNone_map_ne_error (hxs _ hlook)) (fun v hv => ?_)
    fun v ys hys => hrest v ys fun y hy => hxs y (hys y hy)
  obtain ⟨answers, rfl, -⟩ := among_of_foundVolume hv
  exact Exchange.not_misses_of_ok

theorem graceful_of_openedBySnapshot {op : Operation} {h : Handle}
    {Rest : RemoteSnapshot → List Exchange → Except Fault op.Answer → Prop} {xs : List Exchange}
    {r : Except Fault op.Answer} (hstory : OpenedBySnapshot h op.negative Rest xs r)
    (hxs : ∀ x ∈ xs, x.FailsByAbsence)
    (hrest : ∀ s ys, (∀ y ∈ ys, y.FailsByAbsence) → Rest s ys r → Graceful op ys r) :
    Graceful op xs r := by
  obtain ⟨outcome, hopened⟩ := hstory
  have hlook : (⟨.describeSnapshots h.scope (some [h.localId]) none, outcome⟩ : Exchange) ∈ xs := by
    cases hopened <;> exact List.mem_cons_self
  refine graceful_of_opened hopened rfl (orNone_map_ne_error (hxs _ hlook)) (fun s hs => ?_)
    fun s ys hys => hrest s ys fun y hy => hxs y (hys y hy)
  obtain ⟨answers, rfl, -⟩ := among_of_foundSnapshot hs
  exact Exchange.not_misses_of_ok

/-! ## Looks that fail in a wait -/

/-- What a look makes of a volume that is gone. -/
theorem goneFault_cases (scope id : String) :
    (goneFault scope id).isNotFound = true ∨
      ∃ why, Handle.encode scope id = .error why ∧ goneFault scope id = .argument why := by
  rw [goneFault]
  cases Handle.encode scope id with
  | ok handle => exact Or.inl rfl
  | error why => exact Or.inr ⟨why, rfl, rfl⟩

/-- A look that misses its volume fails for that reason. -/
theorem orMissing_of_missed {scope id : String}
    {outcome : Except Fault (List (Option RemoteVolume))}
    (h : ∃ f, outcome = .error f ∧ f.isNotFound = true) :
    orMissing scope id (foundVolume id outcome) = .error (goneFault scope id) := by
  obtain ⟨f, rfl, hf⟩ := h
  rw [foundVolume, orNone, if_pos hf]
  rfl

/-- A wait in which a look fails because a volume is missing: it ends well if it was for something
to be gone. -/
theorem settles_of_missed {τ : Type} [Viewed τ] {w : Wait τ}
    {Looks : τ → List Exchange → Except Fault τ → Prop} {x : Exchange}
    (hlook : ∀ t es r, Looks t es r → x ∈ es →
      ∃ h, Resource.volume h ∈ x.request.addresses ∧ r = .error (goneFault h.scope h.localId))
    {first : τ} {xs : List Exchange} {r : Except Fault (Option τ)}
    (hwait : w.Settles Looks first xs r) (hx : x ∈ xs) :
    (r = .ok none ∧ w.goneIsReady = true) ∨
      (∃ why, r = .error why ∧ why.isNotFound = true ∧ w.goneIsReady = false) ∨
      Unnameable xs r := by
  obtain ⟨ending, total, hcourse, rfl⟩ := hwait
  obtain ⟨why, hwhy, hending⟩ := hcourse.of_failed (P := (· = x)) (Q := fun why =>
      ∃ h, Resource.volume h ∈ x.request.addresses ∧ why = goneFault h.scope h.localId)
    (by
      rintro t es r hes ⟨_, hmem, rfl⟩
      obtain ⟨h, hh, rfl⟩ := hlook t es r hes hmem
      exact ⟨_, rfl, h, hh, rfl⟩) ⟨x, hx, rfl⟩
  rcases hending with ⟨rfl, hgone⟩ | ⟨rfl, hgone⟩
  · exact Or.inl ⟨rfl, hgone⟩
  · obtain ⟨h, hh, rfl⟩ := hwhy
    rcases goneFault_cases h.scope h.localId with hmissing | ⟨bad, hbad, hargument⟩
    · refine Or.inr (Or.inl ⟨_, rfl, hmissing, ?_⟩)
      exact Bool.eq_false_iff.mpr fun hready => hgone ⟨hmissing, hready⟩
    · rw [hargument]
      exact Or.inr (Or.inr ⟨x, hx, _, hh, bad, hbad, rfl⟩)

/-- A wait whose looks miss a volume, in a flow that makes a proper answer of how the wait ends. -/
theorem graceful_of_settles {τ : Type} [Viewed τ] {w : Wait τ}
    {Looks : τ → List Exchange → Except Fault τ → Prop} {op : Operation} {first : τ}
    {xs : List Exchange} {s : Except Fault (Option τ)} {r : Except Fault op.Answer}
    (hwait : w.Settles Looks first xs s)
    (hlook : ∀ t es u, Looks t es u → ∀ x ∈ es, (∃ f, x.outcome = .error f ∧ f.isNotFound = true) →
      ∃ h, Resource.volume h ∈ x.request.addresses ∧ u = .error (goneFault h.scope h.localId))
    (hguarded : ∀ x ∈ xs, x.request.isUnguarded = false)
    (hgone : s = .ok none → w.goneIsReady = true →
      ∃ a, r = .ok a ∧ (op.removes = false → a = op.negative))
    (hmissing : ∀ why, s = .error why → why.isNotFound = true → w.goneIsReady = false →
      ∃ a, r = .ok a ∧ (op.removes = false → a = op.negative))
    (hargument : ∀ why, s = .error (.argument why) → r = .error (.argument why)) :
    Graceful op xs r := by
  refine fun x hx hmiss => ⟨fun _ => ?_, fun hun => ?_⟩
  · rcases settles_of_missed (fun t es u h hes => hlook t es u h x hes hmiss.2) hwait hx with
      ⟨hs, hready⟩ | ⟨why, hs, hwhy, hready⟩ | ⟨y, hy, resource, hresource, bad, hbad, hs⟩
    · exact Or.inl (hgone hs hready)
    · exact Or.inl (hmissing why hs hwhy hready)
    · exact Or.inr ⟨y, hy, resource, hresource, bad, hbad, hargument bad hs⟩
  · rw [hguarded x hx] at hun
    cases hun

theorem AttachmentLook.missed {scope : String} {absent : AttachmentStatus} {a : RemoteAttachment}
    {xs : List Exchange} {r : Except Fault RemoteAttachment}
    (h : AttachmentLook scope absent a xs r) (x : Exchange) (hx : x ∈ xs)
    (hmiss : ∃ f, x.outcome = .error f ∧ f.isNotFound = true) :
    ∃ h, Resource.volume h ∈ x.request.addresses ∧ r = .error (goneFault h.scope h.localId) := by
  obtain ⟨outcome, rfl, rfl⟩ := h
  obtain rfl := List.mem_singleton.mp hx
  refine ⟨⟨scope, a.volumeId⟩, List.mem_singleton.mpr rfl, ?_⟩
  rw [orMissing_of_missed hmiss]
  rfl

theorem VolumeLook.missed {v : RemoteVolume} {xs : List Exchange} {r : Except Fault RemoteVolume}
    (h : VolumeLook v xs r) (x : Exchange) (hx : x ∈ xs)
    (hmiss : ∃ f, x.outcome = .error f ∧ f.isNotFound = true) :
    ∃ h, Resource.volume h ∈ x.request.addresses ∧ r = .error (goneFault h.scope h.localId) := by
  obtain ⟨outcome, rfl, rfl⟩ := h
  obtain rfl := List.mem_singleton.mp hx
  exact ⟨⟨v.scope, v.volumeId⟩, List.mem_singleton.mpr rfl, orMissing_of_missed hmiss⟩

/-! ## The changing flows -/

/-- Looks at volumes do not look at what only names snapshots, and the other way round. -/
theorem not_misses_of_kind {op : Operation} {x : Exchange}
    (h : ∀ resource ∈ x.request.addresses, resource ∉ op.named) : ¬ x.Misses op :=
  fun ⟨⟨resource, hx, hop⟩, _⟩ => h resource hx hop

/-- The resource that a creation names is a snapshot. -/
theorem named_createVolume {name : Datum} {options : Options} {resource : Resource}
    (h : resource ∈ (Operation.createVolume name options).named) :
    ∃ s, resource = .snapshot s := by
  cases options with
  | zonedVolume o =>
    rw [Operation.named] at h
    cases hs : o.snapshotId with
    | none =>
      rw [hs] at h
      exact absurd h List.not_mem_nil
    | some text =>
      rw [hs] at h
      change resource ∈ ((Handle.decode text).toOption.map Resource.snapshot).toList at h
      obtain ⟨s, -, rfl⟩ := Option.map_eq_some_iff.mp (Option.mem_toList.mp h)
      exact ⟨s, rfl⟩
  | _ => exact absurd h List.not_mem_nil

/-- A look at volumes misses no snapshot. -/
theorem not_misses_createVolume {name : Datum} {options : Options} {scope : String}
    {ids : List String} {outcome : Except Fault (List (Option RemoteVolume))} :
    ¬ Exchange.Misses (.createVolume name options) ⟨.describeVolumes scope ids, outcome⟩ := by
  refine not_misses_of_kind fun resource hx hop => ?_
  obtain ⟨s, rfl⟩ := named_createVolume hop
  obtain ⟨id, -, hid⟩ := List.mem_map.mp hx
  cases hid

/-- The looks of a wait for a volume. -/
theorem isVolumeLook_of_settles {w : Wait RemoteVolume} {first : RemoteVolume} {xs : List Exchange}
    {r : Except Fault (Option RemoteVolume)} (h : w.Settles VolumeLook first xs r) :
    ∀ x ∈ xs, ∃ scope ids outcome, x = ⟨.describeVolumes scope ids, outcome⟩ := by
  refine h.forall_mem fun v ys s hlook x hx => ?_
  obtain ⟨outcome, rfl, -⟩ := hlook
  exact ⟨_, _, _, List.mem_singleton.mp hx⟩

/-- What follows an order are looks at volumes; an order that fails ends the flow as it failed. -/
theorem Ordered.mem {order : Exchange} {outcome : Except Fault RemoteVolume} {xs : List Exchange}
    {r : Except Fault (Option Volume)} (h : Ordered c [order] outcome xs r) :
    ∀ x ∈ xs, (x = order ∧ ∀ f, outcome = .error f → r = .error f) ∨
      ∃ scope ids outcome, x = ⟨.describeVolumes scope ids, outcome⟩ := by
  intro x hx
  cases h with
  | refused => exact Or.inl ⟨List.mem_singleton.mp hx, fun _ hf => congrArg _ (Except.error.inj hf)⟩
  | unsettled hwait =>
    rcases List.mem_append.mp hx with hx | hx
    · exact Or.inl ⟨List.mem_singleton.mp hx, fun _ hf => by cases hf⟩
    · exact Or.inr (isVolumeLook_of_settles hwait x hx)
  | settled hwait look =>
    rcases List.mem_append.mp hx with hx | hx
    · exact Or.inl ⟨List.mem_singleton.mp hx, fun _ hf => by cases hf⟩
    · rcases List.mem_append.mp hx with hx | hx
      · exact Or.inr (isVolumeLook_of_settles hwait x hx)
      · exact Or.inr ⟨_, _, _, List.mem_singleton.mp hx⟩

theorem Creation.graceful {name : Datum} {options : Options} {o : ZonedVolumeOptions}
    {scope : String} {source : Option Handle} {xs : List Exchange}
    {r : Except Fault (Option Volume)} (h : Creation c o scope source xs r)
    (hxs : ∀ x ∈ xs, x.FailsByAbsence) : Graceful (.createVolume name options) xs r := by
  cases h with
  | fresh outcome hordered =>
    refine .of_no_miss fun x hx => ?_
    rcases hordered.mem x hx with ⟨rfl, -⟩ | ⟨scope, ids, look, rfl⟩
    · exact not_misses_of_kind fun resource hnone => absurd hnone List.not_mem_nil
    · exact not_misses_createVolume
  | restored hopened =>
    refine graceful_of_openedBySnapshot hopened hxs fun s ys _ hrest x hx hmiss => ?_
    obtain ⟨outcome, hordered⟩ := hrest
    rcases hordered.mem x hx with ⟨rfl, hfailed⟩ | ⟨scope, ids, look, rfl⟩
    · exact ⟨fun hguarded => (by cases hguarded), fun _ => hfailed⟩
    · exact absurd hmiss not_misses_createVolume

theorem graceful_createVolume {name : Datum} {options : Options} {xs : List Exchange}
    {r : Except Fault (Option Volume)}
    (h : Admitted (creationArguments options) (fun a => Creation c a.1 a.2.1 a.2.2) xs r)
    (hxs : ∀ x ∈ xs, x.FailsByAbsence) : Graceful (.createVolume name options) xs r :=
  graceful_of_admitted h fun _ _ hcreation => hcreation.graceful hxs

/-- A miss that counts as a negative answer. -/
theorem unlessMissing_of_notFound {f : Fault} (hf : f.isNotFound = true) :
    unlessMissing (.error f : Except Fault Unit) = .ok false := by
  rw [unlessMissing, if_pos hf]

/-- The looks of a wait are guarded. -/
theorem isGuarded_of_isLook {xs : List Exchange} {scope : String}
    (h : ∀ x ∈ xs, ∃ ids, x.request = .describeVolumes scope ids) :
    ∀ x ∈ xs, x.request.isUnguarded = false := by
  intro x hx
  obtain ⟨ids, hids⟩ := h x hx
  rw [hids]
  rfl

theorem graceful_attachVolume {volume node : String} {options : Options} {xs : List Exchange}
    {r : Except Fault Bool}
    (h : Admitted (attachArguments volume node options) (fun d => Attaching c d.1 d.2.1 d.2.2) xs r)
    (hxs : ∀ x ∈ xs, x.FailsByAbsence) : Graceful (.attachVolume volume node options) xs r := by
  refine graceful_of_admitted h fun d _ hattaching => ?_
  cases hattaching with
  | refused f =>
    have hf : f.isNotFound = true := hxs _ List.mem_cons_self f rfl
    refine .of_guarded (fun x hx => ?_) (Or.inl ⟨false, ?_, fun _ => rfl⟩)
    · rw [List.mem_singleton.mp hx]
      rfl
    · exact unlessMissing_of_notFound hf
  | @waited a waited r hwait =>
    refine Graceful.cons (graceful_of_settles hwait (fun _ _ _ hlook => hlook.missed)
      (isGuarded_of_isLook (isLook_of_settles hwait)) ?_ ?_ ?_) Exchange.not_misses_of_ok
    · intro _ hgone
      cases hgone
    · rintro why rfl hwhy -
      exact ⟨false, by rw [unlessMissing, if_pos hwhy], fun _ => rfl⟩
    · rintro why rfl
      rfl

theorem graceful_detachVolume {volume : String} {options : Options} {xs : List Exchange}
    {r : Except Fault Bool}
    (h : Admitted (detachArguments volume options) (fun d =>
      OpenedByVolume d.2.1 false (Detachment c d.2.1 d.1 d.2.2)) xs r)
    (hxs : ∀ x ∈ xs, x.FailsByAbsence) : Graceful (.detachVolume volume options) xs r := by
  refine graceful_of_admitted h fun d _ hopened => ?_
  refine graceful_of_openedByVolume hopened hxs fun remote ys hys hdetachment => ?_
  cases hdetachment with
  | unmatched _ => exact .of_no_miss fun x hx => absurd hx List.not_mem_nil
  | @matched found _ _ _ hdetaching =>
    cases hdetaching with
    | refused f =>
      have hf : f.isNotFound = true := hys _ List.mem_cons_self f rfl
      refine .of_guarded (fun x hx => ?_) (Or.inl ⟨false, ?_, Operation.unasked_of_removes rfl⟩)
      · rw [List.mem_singleton.mp hx]
        rfl
      · exact unlessMissing_of_notFound hf
    | @unsettled a waited f hwait =>
      refine Graceful.cons (graceful_of_settles hwait (fun _ _ _ hlook => hlook.missed)
        (isGuarded_of_isLook (isLook_of_settles hwait)) ?_ ?_ ?_) Exchange.not_misses_of_ok
      · intro hok _
        cases hok
      · intro _ _ _ hgone
        cases hgone
      · intro why hwhy
        exact congrArg _ (Except.error.inj hwhy)
    | @settled a waited last hwait =>
      refine .of_guarded (fun x hx => ?_) ?_
      · rcases List.mem_cons.mp hx with rfl | hx
        · rfl
        · exact isGuarded_of_isLook (isLook_of_settles hwait) x hx
      · cases hid : Handle.encode d.2.1.scope found.instanceId with
        | ok node => exact Or.inl ⟨true, rfl, Operation.unasked_of_removes rfl⟩
        | error why =>
          refine Or.inr ⟨_, List.mem_cons_self, .node ⟨d.2.1.scope, found.instanceId⟩, ?_, why, hid,
            rfl⟩
          exact List.mem_cons_of_mem _ List.mem_cons_self

theorem graceful_removeVolume {volume : String} {xs : List Exchange} {r : Except Fault Bool}
    (h : Admitted ((Handle.decode volume).mapError .argument)
      (fun v => OpenedByVolume v false (Removal c v)) xs r)
    (hxs : ∀ x ∈ xs, x.FailsByAbsence) : Graceful (.removeVolume volume) xs r := by
  refine graceful_of_admitted h fun v _ hopened => ?_
  refine graceful_of_openedByVolume hopened hxs fun remote ys hys hremoval => ?_
  cases hremoval with
  | @refused f hf =>
    exact absurd (hys _ List.mem_cons_self f rfl) (by rw [hf]; exact Bool.false_ne_true)
  | gone _ =>
    refine .of_guarded (fun x hx => ?_) (Or.inl ⟨true, rfl, Operation.unasked_of_removes rfl⟩)
    rw [List.mem_singleton.mp hx]
    rfl
  | @waited waited r hwait =>
    refine Graceful.cons (graceful_of_settles hwait (fun _ _ _ hlook => hlook.missed) ?_ ?_ ?_ ?_)
      Exchange.not_misses_of_ok
    · intro x hx
      obtain ⟨scope, ids, outcome, rfl⟩ := isVolumeLook_of_settles hwait x hx
      rfl
    · rintro rfl -
      exact ⟨true, rfl, Operation.unasked_of_removes rfl⟩
    · intro _ _ _ hgone
      cases hgone
    · rintro why rfl
      rfl

/-- A look at snapshots by their ids misses no volume. -/
theorem not_misses_createSnapshot {volume : String} {options : Options} {scope : String}
    {ids : List String} {outcome : Except Fault (List (Option RemoteSnapshot))} :
    ¬ Exchange.Misses (.createSnapshot volume options)
      ⟨.describeSnapshots scope (some ids) none, outcome⟩ := by
  refine not_misses_of_kind fun resource hx hop => ?_
  obtain ⟨v, -, rfl⟩ := Option.map_eq_some_iff.mp (Option.mem_toList.mp hop)
  rcases List.mem_append.mp hx with hx | hx
  · obtain ⟨id, -, hid⟩ := List.mem_map.mp hx
    cases hid
  · exact absurd hx List.not_mem_nil

theorem not_misses_of_snapshotLooks {volume : String} {options : Options} {w : Wait RemoteSnapshot}
    {first : RemoteSnapshot} {xs : List Exchange} {r : Except Fault (Option RemoteSnapshot)}
    (h : w.Settles SnapshotLook first xs r) :
    ∀ x ∈ xs, ¬ x.Misses (.createSnapshot volume options) := by
  refine h.forall_mem fun s ys t hlook x hx => ?_
  obtain ⟨outcome, rfl, -⟩ := hlook
  rw [List.mem_singleton.mp hx]
  exact not_misses_createSnapshot

theorem graceful_createSnapshot {volume : String} {options : Options} {xs : List Exchange}
    {r : Except Fault (Option Snapshot)}
    (h : Admitted ((Handle.decode volume).mapError .argument)
      (fun v => OpenedByVolume v none (Copying c v options)) xs r)
    (hxs : ∀ x ∈ xs, x.FailsByAbsence) : Graceful (.createSnapshot volume options) xs r := by
  refine graceful_of_admitted h fun v _ hopened => ?_
  refine graceful_of_openedByVolume hopened hxs fun source ys hys hcopying => ?_
  cases hcopying with
  | unnamed _ => exact .of_no_miss fun x hx => absurd hx List.not_mem_nil
  | refused _ f =>
    have hf : f.isNotFound = true := hys _ List.mem_cons_self f rfl
    refine .of_guarded (fun x hx => ?_) (Or.inl ⟨none, ?_, fun _ => rfl⟩)
    · rw [List.mem_singleton.mp hx]
      rfl
    · rw [orNone, if_pos hf]
      rfl
  | unsettled _ hwait =>
    refine Graceful.cons (.of_no_miss ?_) Exchange.not_misses_of_ok
    exact not_misses_of_snapshotLooks hwait
  | settled _ hwait outcome =>
    refine Graceful.cons (.of_no_miss fun x hx => ?_) Exchange.not_misses_of_ok
    rcases List.mem_append.mp hx with hx | hx
    · exact not_misses_of_snapshotLooks hwait x hx
    · rw [List.mem_singleton.mp hx]
      exact not_misses_createSnapshot

theorem graceful_deleteSnapshot {snapshot : String} {xs : List Exchange} {r : Except Fault Bool}
    (h : Admitted ((Handle.decode snapshot).mapError .argument)
      (fun s => OpenedBySnapshot s false fun _ => Deletion s) xs r)
    (hxs : ∀ x ∈ xs, x.FailsByAbsence) : Graceful (.deleteSnapshot snapshot) xs r := by
  refine graceful_of_admitted h fun s _ hopened => ?_
  refine graceful_of_openedBySnapshot hopened hxs fun remote ys hys hdeletion => ?_
  cases hdeletion with
  | @refused f hf =>
    exact absurd (hys _ List.mem_cons_self f rfl) (by rw [hf]; exact Bool.false_ne_true)
  | looked _ outcome =>
    have hlast : ∀ f, foundSnapshot s.localId outcome ≠ .error f :=
      orNone_map_ne_error (hys _ (List.mem_cons_of_mem _ List.mem_cons_self))
    refine .of_guarded (fun x hx => ?_) (Or.inl ?_)
    · rcases List.mem_cons.mp hx with rfl | hx
      · rfl
      · rw [List.mem_singleton.mp hx]
        rfl
    · cases hfound : foundSnapshot s.localId outcome with
      | error f => exact absurd hfound (hlast f)
      | ok found => exact ⟨found.isNone, rfl, Operation.unasked_of_removes rfl⟩

/-! ## The reading flows -/

theorem graceful_getVolume {volume : String} {xs : List Exchange}
    {r : Except Fault (Option Volume)}
    (h : Admitted ((Handle.decode volume).mapError .argument) (fun v =>
      OpenedByVolume v none fun remote ys s =>
        ys = [] ∧ s = (remote.toVolume.map some).mapError .argument) xs r)
    (hxs : ∀ x ∈ xs, x.FailsByAbsence) : Graceful (.getVolume volume) xs r := by
  refine graceful_of_admitted h fun v _ hopened => ?_
  refine graceful_of_openedByVolume hopened hxs fun remote ys _ hrest => ?_
  rw [hrest.1]
  exact .of_no_miss fun x hx => absurd hx List.not_mem_nil

theorem graceful_getSnapshot {snapshot : String} {xs : List Exchange}
    {r : Except Fault (Option Snapshot)}
    (h : Admitted ((Handle.decode snapshot).mapError .argument) (fun s =>
      OpenedBySnapshot s none fun remote ys t =>
        ys = [] ∧ t = (remote.toSnapshot.map some).mapError .argument) xs r)
    (hxs : ∀ x ∈ xs, x.FailsByAbsence) : Graceful (.getSnapshot snapshot) xs r := by
  refine graceful_of_admitted h fun s _ hopened => ?_
  refine graceful_of_openedBySnapshot hopened hxs fun remote ys _ hrest => ?_
  rw [hrest.1]
  exact .of_no_miss fun x hx => absurd hx List.not_mem_nil

theorem graceful_listVolumesOf {node : String} {xs : List Exchange}
    {r : Except Fault (List Volume)}
    (h : Admitted ((Handle.decode node).mapError .argument) (fun n =>
      Listing (.describeVolumes n.scope []) (heldVolumes n.localId)) xs r) :
    Graceful (.listVolumesOf node) xs r := by
  refine graceful_of_admitted h fun n _ hlisting => .of_no_miss fun x hx => ?_
  obtain ⟨outcome, rfl, -⟩ := hlisting
  rw [List.mem_singleton.mp hx]
  exact not_misses_of_kind fun resource hnone => absurd hnone List.not_mem_nil

theorem graceful_listSnapshotsOf {volume : String} {xs : List Exchange}
    {r : Except Fault (List Snapshot)}
    (h : Admitted ((Handle.decode volume).mapError .argument) (fun v =>
      OpenedByVolume v [] fun _ =>
        Listing (.describeSnapshots v.scope none (some v.localId)) snapshotsOf) xs r)
    (hxs : ∀ x ∈ xs, x.FailsByAbsence) : Graceful (.listSnapshotsOf volume) xs r := by
  refine graceful_of_admitted h fun v _ hopened => ?_
  refine graceful_of_openedByVolume hopened hxs fun remote ys _ hlisting x hx _ => ?_
  obtain ⟨outcome, rfl, rfl⟩ := hlisting
  obtain rfl := List.mem_singleton.mp hx
  refine ⟨fun hguarded => (by cases hguarded), fun _ f hf => ?_⟩
  dsimp only at hf
  rw [hf]
  rfl

/-! ## All operations -/

theorem Tells.graceful {op : Operation} {flow : Flow γ op.Answer}
    (h : c.Tells flow fun xs r => (∀ x ∈ xs, x.FailsByAbsence) → Graceful op xs r)
    (hc : ∀ x, c.Answers x → x.FailsByAbsence) (w : World Event γ) :
    ∃ own, w.Wrote own (flow.run w).2 ∧ Graceful op (Event.exchanges own) (flow.run w).1 := by
  obtain ⟨own, hwrote, hanswers, hgraceful⟩ := h.wrote w
  exact ⟨own, hwrote, hgraceful fun x hx => hc x (hanswers x hx)⟩

/-- An operation that names nothing misses nothing. -/
theorem Unchanging.graceful {op : Operation} (hop : op.named = []) {flow : Flow γ op.Answer}
    (h : Unchanging flow) (w : World Event γ) :
    ∃ own, w.Wrote own (flow.run w).2 ∧ Graceful op (Event.exchanges own) (flow.run w).1 := by
  obtain ⟨own, hwrote, -, -⟩ := h w
  refine ⟨own, hwrote, .of_no_miss fun x _ => not_misses_of_kind fun resource _ hmem => ?_⟩
  rw [hop] at hmem
  exact List.not_mem_nil hmem

/-- **A miss ends an operation in a normal way**, unless the request that misses is unguarded: its
failure leaves the operation. The gateway may answer whatever it likes, and fail wherever a resource
is missing. -/
theorem miss_ends (c : Lifecycle γ) (hc : ∀ x, c.Answers x → x.FailsByAbsence) (op : Operation)
    (w : World Event γ) :
    ∃ own, w.Wrote own ((c.perform op).run w).2 ∧
      ∀ x ∈ Event.exchanges own, x.Misses op →
        MissEnds op (Event.exchanges own) x ((c.perform op).run w).1 := by
  have hvolumes : ∀ location now remote e, (c.volumesIn location now remote).Reports e →
      AsksNoChange e := fun location now remote e => legIn_asksNoChange rfl _ location now remote
  have hsnapshots : ∀ location now remote e, (c.snapshotsIn location now remote).Reports e →
      AsksNoChange e := fun location now remote e => legIn_asksNoChange rfl _ location now remote
  cases op with
  | createVolume name options =>
    exact ((tells_createVolume c name options).mono fun _ _ h => graceful_createVolume h).graceful
      hc w
  | attachVolume volume node options =>
    exact ((tells_attachVolume c volume node options).mono fun _ _ h =>
      graceful_attachVolume h).graceful hc w
  | detachVolume volume options =>
    exact ((tells_detachVolume c volume options).mono fun _ _ h =>
      graceful_detachVolume h).graceful hc w
  | removeVolume volume =>
    exact ((tells_removeVolume c volume).mono fun _ _ h => graceful_removeVolume h).graceful hc w
  | createSnapshot volume options =>
    exact ((tells_createSnapshot c volume options).mono fun _ _ h =>
      graceful_createSnapshot h).graceful hc w
  | deleteSnapshot snapshot =>
    exact ((tells_deleteSnapshot c snapshot).mono fun _ _ h =>
      graceful_deleteSnapshot h).graceful hc w
  | getVolume volume =>
    exact ((tells_getVolume c volume).mono fun _ _ h => graceful_getVolume h).graceful hc w
  | getSnapshot snapshot =>
    exact ((tells_getSnapshot c snapshot).mono fun _ _ h => graceful_getSnapshot h).graceful hc w
  | listVolumesOf node =>
    exact ((tells_listVolumesOf c node).mono fun xs _ h
      (_ : ∀ x ∈ xs, x.FailsByAbsence) => graceful_listVolumesOf h).graceful hc w
  | listSnapshotsOf volume =>
    exact ((tells_listSnapshotsOf c volume).mono fun _ _ h =>
      graceful_listSnapshotsOf h).graceful hc w
  | listVolumesIn location =>
    exact ((Unchanging.listIn (hvolumes location)).map distinct).graceful rfl w
  | listSnapshotsIn location =>
    exact ((Unchanging.listIn (hsnapshots location)).map distinct).graceful rfl w
  | listVolumes => exact (Unchanging.listAll hvolumes).graceful rfl w
  | listSnapshots => exact (Unchanging.listAll hsnapshots).graceful rfl w

/-! ## A resource that goes away meanwhile -/

/-- What a request is about that has missed something. -/
def missed? (x : Exchange) : Option (List Resource) :=
  match x.outcome with
  | .error f => if f.isNotFound then some x.request.addresses else none
  | .ok _ => none

theorem misses_of_missed? {op : Operation} {x : Exchange} {resources : List Resource}
    (h : missed? x = some resources) {resource : Resource} (hx : resource ∈ resources)
    (hop : resource ∈ op.named) : x.Misses op := by
  rw [missed?] at h
  split at h
  · next f hf =>
    split at h
    · next hmissing =>
      obtain rfl := Option.some.inj h
      exact ⟨⟨resource, hx, hop⟩, f, hf, hmissing⟩
    · cases h
  · cases h

/-- A provider that shows a volume and a snapshot, which are gone by the next request. -/
def fleetingReply : (r : Request) → Except Fault r.Answer
  | .describeVolumes scope _ =>
    .ok [some ⟨scope, "vol-1", 1.0, "us-east-1a", .available, [], none, none⟩]
  | .describeSnapshots scope (some _) _ =>
    .ok [some ⟨scope, "snap-1", "vol-1", 1.0, .completed, "", none⟩]
  | _ => .error (.notFound "" none)

/-- The flows over that provider. -/
def fleeting : Lifecycle Unit where
  gateway := .prompt fleetingReply
  budgets := { maxAttempts := 1, delay := 0.0 }

theorem fleetingReply_error {r : Request} {f : Fault} (h : fleetingReply r = .error f) :
    f.isNotFound = true := by
  rw [fleetingReply.eq_def] at h
  split at h
  · cases h
  · cases h
  · obtain rfl := Except.error.inj h
    rfl

theorem fleeting_failsByAbsence (x : Exchange) (hx : fleeting.Answers x) : x.FailsByAbsence := by
  intro f hf
  have hprompt : fleeting.gateway = .prompt fleetingReply := rfl
  exact fleetingReply_error ((outcome_of_answers hprompt hx).symm.trans hf)

/-- An attachment to a volume that is gone is a negative answer. -/
theorem fleeting_attach_ends :
    ∃ own x, x ∈ Event.exchanges own ∧
      x.Misses (.attachVolume "us-east-1/vol-1" "us-east-1/i-1" (.attach ⟨"/dev/sdh"⟩)) ∧
      MissEnds (.attachVolume "us-east-1/vol-1" "us-east-1/i-1" (.attach ⟨"/dev/sdh"⟩))
        (Event.exchanges own) x ((fleeting.perform (.attachVolume "us-east-1/vol-1"
          "us-east-1/i-1" (.attach ⟨"/dev/sdh"⟩))).run { remote := () }).1 := by
  obtain ⟨own, hwrote, hends⟩ := miss_ends fleeting fleeting_failsByAbsence
    (.attachVolume "us-east-1/vol-1" "us-east-1/i-1" (.attach ⟨"/dev/sdh"⟩)) { remote := () }
  have hmissed : (Event.exchanges ((fleeting.perform (.attachVolume "us-east-1/vol-1"
      "us-east-1/i-1" (.attach ⟨"/dev/sdh"⟩))).run { remote := () }).2.journal).filterMap missed? =
      [[.volume ⟨"us-east-1", "vol-1"⟩, .node ⟨"us-east-1", "i-1"⟩]] := by decide +kernel
  rw [hwrote.journal_eq rfl, List.nil_append] at hmissed
  obtain ⟨x, hx, hresources⟩ := List.mem_filterMap.mp
    (by rw [hmissed]; exact List.mem_singleton.mpr rfl :
      [Resource.volume ⟨"us-east-1", "vol-1"⟩, .node ⟨"us-east-1", "i-1"⟩] ∈
        (Event.exchanges own).filterMap missed?)
  have hmiss := misses_of_missed? hresources List.mem_cons_self
    (by decide : Resource.volume ⟨"us-east-1", "vol-1"⟩ ∈ (Operation.attachVolume
      "us-east-1/vol-1" "us-east-1/i-1" (.attach ⟨"/dev/sdh"⟩)).named)
  exact ⟨own, x, hx, hmiss, hends x hx hmiss⟩

/-- Every miss of an operation ends with an answer. -/
def MissesAnswer (c : Lifecycle γ) (op : Operation) (w : World Event γ) : Prop :=
  ∃ own, w.Wrote own ((c.perform op).run w).2 ∧
    ∀ x ∈ Event.exchanges own, x.Misses op → ∃ a, ((c.perform op).run w).1 = .ok a

/-- A miss without an answer. -/
theorem not_missesAnswer {c : Lifecycle γ} {op : Operation} {w : World Event γ}
    (hstrays : w.strays = []) (hjournal : w.journal = [])
    (resource : Resource) (resources : List Resource)
    (hmissed : resources ∈ (Event.exchanges ((c.perform op).run w).2.journal).filterMap missed?)
    (hresource : resource ∈ resources) (hop : resource ∈ op.named)
    (hfails : ((c.perform op).run w).1.isOk = false) : ¬ MissesAnswer c op w := by
  rintro ⟨own, hwrote, hanswers⟩
  rw [hwrote.journal_eq hstrays, hjournal, List.nil_append] at hmissed
  obtain ⟨x, hx, hresources⟩ := List.mem_filterMap.mp hmissed
  obtain ⟨a, ha⟩ := hanswers x hx (misses_of_missed? hresources hresource hop)
  rw [ha] at hfails
  cases hfails

/-- Where the snapshot is gone by the time of the restore, and the volume by the time of the
listing, the operations fail. -/
theorem fleeting_misses_unanswered :
    ¬ MissesAnswer fleeting (.createVolume .null (.zonedVolume
      { zone := "us-east-1a", snapshotId := some "us-east-1/snap-1" })) { remote := () } ∧
    ¬ MissesAnswer fleeting (.listSnapshotsOf "us-east-1/vol-1") { remote := () } := by
  constructor
  · refine not_missesAnswer rfl rfl (.snapshot ⟨"us-east-1", "snap-1"⟩)
      [.snapshot ⟨"us-east-1", "snap-1"⟩] ?_ List.mem_cons_self ?_ ?_
    · decide +kernel
    · decide
    · decide +kernel
  · refine not_missesAnswer rfl rfl (.volume ⟨"us-east-1", "vol-1"⟩)
      [.volume ⟨"us-east-1", "vol-1"⟩] ?_ List.mem_cons_self ?_ ?_
    · decide +kernel
    · decide
    · decide +kernel

end Lifecycle

end BlockStorage
