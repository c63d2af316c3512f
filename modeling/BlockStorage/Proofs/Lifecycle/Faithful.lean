import BlockStorage.Proofs.Lifecycle.Reading
import BlockStorage.Proofs.Lifecycle.Sighting
import BlockStorage.Proofs.Operation

/-!
# Over a faithful gateway

A record echoes the scope of its request, and its ids can stand in a handle. Over a
gateway that keeps to that, and that refuses no argument itself, a flow past its
arguments refuses nothing any more: whatever handle it makes can be made.

* `Exchange.Faithful`: such an exchange.
* `Unrefused`: an outcome that is no refusal of an argument.
* `Wait.Settles.unrefused`: a wait over such a gateway refuses nothing.
* `Lifecycle.Ordered.unrefused`, `Lifecycle.Attaching.unrefused`, …: nor do the flows,
  in scopes that can stand in a handle.
-/

namespace BlockStorage

open Handle (IsPart)

/-! ## Faithful answers -/

structure RemoteAttachment.IsProper (a : RemoteAttachment) : Prop where
  volume : IsPart a.volumeId
  instanceId : IsPart a.instanceId

/-- A record of a scope whose ids can stand in a handle. -/
structure RemoteVolume.IsProper (scope : String) (v : RemoteVolume) : Prop where
  scope_eq : v.scope = scope
  id : IsPart v.volumeId
  attachments : ∀ a ∈ v.attachments, a.IsProper

structure RemoteSnapshot.IsProper (scope : String) (s : RemoteSnapshot) : Prop where
  scope_eq : s.scope = scope
  id : IsPart s.snapshotId
  volume : IsPart s.volumeId

/-- A proper answer echoes the scope of its request in proper records. `Scopes` are the scopes that
may be listed. -/
def Request.Proper (Scopes : String → Prop) : (r : Request) → r.Answer → Prop
  | listScopes, scopes => ∀ s ∈ scopes, Scopes s.plain
  | describeVolumes scope _, volumes => ∀ v, some v ∈ volumes → v.IsProper scope
  | createVolume scope _ _, v => v.IsProper scope
  | restoreVolume scope _ _ _, v => v.IsProper scope
  | deleteVolume _ _, _ => True
  | attachVolume _ _ _ _, a => a.IsProper
  | detachVolume _ _ _ _ _, a => a.IsProper
  | describeSnapshots scope _ _, snapshots => ∀ s, some s ∈ snapshots → s.IsProper scope
  | createSnapshot scope _ _, s => s.IsProper scope
  | deleteSnapshot _ _, _ => True

/-- A request was answered properly, or failed without a refused argument. -/
def Exchange.Faithful (Scopes : String → Prop) (x : Exchange) : Prop :=
  match x.outcome with
  | .ok answer => x.request.Proper Scopes answer
  | .error f => f.isArgument = false

/-- No argument was refused. -/
def Unrefused {α : Type} (r : Except Fault α) : Prop := ∀ f, r = .error f → f.isArgument = false

theorem Unrefused.ok {α : Type} (a : α) : Unrefused (.ok a) := fun _ h => by cases h

theorem Unrefused.error {α : Type} {f : Fault} (h : f.isArgument = false) :
    Unrefused (.error f : Except Fault α) := fun _ hf => Except.error.inj hf ▸ h

theorem Unrefused.ne {α : Type} {r : Except Fault α} (h : Unrefused r) (why : BadArgument) :
    r ≠ .error (.argument why) := fun hr => by cases h _ hr

theorem Unrefused.map {α β : Type} {r : Except Fault α} (h : Unrefused r) (f : α → β) :
    Unrefused (r.map f) := by
  cases r with
  | ok a => exact .ok _
  | error g => exact .error (h g rfl)

theorem Unrefused.orNone {α : Type} {r : Except Fault α} (h : Unrefused r) :
    Unrefused (Lifecycle.orNone r) := by
  cases r with
  | ok a => exact .ok _
  | error f =>
    rw [Lifecycle.orNone]
    split
    · exact .ok none
    · exact .error (h f rfl)

/-- A faithful exchange refuses nothing. -/
theorem Exchange.Faithful.unrefused {Scopes : String → Prop} {x : Exchange}
    (h : x.Faithful Scopes) : Unrefused x.outcome := by
  intro f hf
  rw [Exchange.Faithful, hf] at h
  exact h

/-! ## Conversions -/

theorem RemoteVolume.IsProper.toVolume {scope : String} {v : RemoteVolume} (h : v.IsProper scope)
    (hscope : IsPart scope) : ∃ volume, v.toVolume = .ok volume := by
  obtain ⟨id, hid⟩ := Handle.encode_of_isPart (h.scope_eq.symm ▸ hscope) h.id
  rw [RemoteVolume.toVolume, hid]
  exact ⟨_, rfl⟩

theorem RemoteSnapshot.IsProper.toSnapshot {scope : String} {s : RemoteSnapshot}
    (h : s.IsProper scope) (hscope : IsPart scope) (sizeGb : Option Float) :
    ∃ snapshot, s.toSnapshot sizeGb = .ok snapshot := by
  obtain ⟨id, hid⟩ := Handle.encode_of_isPart (h.scope_eq.symm ▸ hscope) h.id
  obtain ⟨volume, hvolume⟩ := Handle.encode_of_isPart (h.scope_eq.symm ▸ hscope) h.volume
  rw [RemoteSnapshot.toSnapshot, hid, hvolume]
  exact ⟨_, rfl⟩

/-- A list converts if each of its members does. -/
theorem mapM_ok {α β ε : Type} {f : α → Except ε β} {as : List α}
    (h : ∀ a ∈ as, ∃ b, f a = .ok b) : ∃ bs, as.mapM f = .ok bs := by
  induction as with
  | nil => exact ⟨[], rfl⟩
  | cons a as ih =>
    obtain ⟨b, hb⟩ := h a List.mem_cons_self
    obtain ⟨bs, hbs⟩ := ih fun x hx => h x (List.mem_cons_of_mem _ hx)
    rw [List.mapM_cons, hb]
    change ∃ cs, Except.bind (as.mapM f) (fun bs => .ok (b :: bs)) = .ok cs
    rw [hbs]
    exact ⟨b :: bs, rfl⟩

namespace Lifecycle

variable {γ : Type} {c : Lifecycle γ} {Scopes : String → Prop}

theorem volumesOf_ok {scope : String} (hscope : IsPart scope) {answers : List (Option RemoteVolume)}
    (h : ∀ v, some v ∈ answers → v.IsProper scope) : ∃ vs, volumesOf answers = .ok vs := by
  refine mapM_ok fun v hv => ?_
  obtain ⟨o, ho, rfl⟩ := List.mem_filterMap.mp hv
  exact (h v ho).toVolume hscope

theorem snapshotsOf_ok {scope : String} (hscope : IsPart scope)
    {answers : List (Option RemoteSnapshot)}
    (h : ∀ s, some s ∈ answers → s.IsProper scope) : ∃ ss, snapshotsOf answers = .ok ss := by
  refine mapM_ok fun s hs => ?_
  obtain ⟨o, ho, rfl⟩ := List.mem_filterMap.mp hs
  exact (h s ho).toSnapshot hscope none

theorem heldVolumes_ok {scope node : String} (hscope : IsPart scope)
    {answers : List (Option RemoteVolume)} (h : ∀ v, some v ∈ answers → v.IsProper scope) :
    ∃ vs, heldVolumes node answers = .ok vs := by
  refine mapM_ok fun p hp => ?_
  obtain ⟨o, ho, hheld⟩ := List.mem_filterMap.mp hp
  cases o with
  | none => cases hheld
  | some v =>
    obtain ⟨v', a⟩ := p
    obtain ⟨volume, hvolume⟩ := (h v ho).toVolume hscope
    cases ha : v.heldBy? node with
    | none =>
      simp [ha] at hheld
    | some a' =>
      simp [ha] at hheld
      obtain ⟨rfl, rfl⟩ := hheld
      dsimp only
      rw [hvolume]
      exact ⟨_, rfl⟩

theorem converted_unrefused {α β : Type} {convert : α → Except BadArgument β}
    {outcome : Except Fault α} (herror : Unrefused outcome)
    (hok : ∀ a, outcome = .ok a → ∃ b, convert a = .ok b) :
    Unrefused (converted convert outcome) := by
  cases outcome with
  | error f => exact .error (herror f rfl)
  | ok a =>
    obtain ⟨b, hb⟩ := hok a rfl
    rw [converted, hb]
    exact .ok b

/-! ## Looks -/

theorem goneFault_isArgument {scope id : String} (hs : IsPart scope) (hid : IsPart id) :
    (goneFault scope id).isArgument = false := by
  obtain ⟨handle, hhandle⟩ := Handle.encode_of_isPart hs hid
  rw [goneFault, hhandle]
  rfl

theorem orMissing_unrefused {ρ : Type} {scope id : String} (hs : IsPart scope) (hid : IsPart id)
    {found : Except Fault (Option ρ)} (h : Unrefused found) :
    Unrefused (orMissing scope id found) := by
  cases found with
  | error f => exact .error (h f rfl)
  | ok o =>
    cases o with
    | none => exact .error (goneFault_isArgument hs hid)
    | some a => exact .ok a

/-- What a faithful look at a volume finds. -/
theorem foundVolume_faithful (id : String) {scope : String} {ids : List String}
    {outcome : Except Fault (List (Option RemoteVolume))}
    (h : Exchange.Faithful Scopes ⟨.describeVolumes scope ids, outcome⟩) :
    Unrefused (foundVolume id outcome) ∧
      ∀ v, foundVolume id outcome = .ok (some v) → v.IsProper scope := by
  refine ⟨h.unrefused.orNone.map _, fun v hv => ?_⟩
  obtain ⟨answers, rfl, hamong⟩ := among_of_foundVolume hv
  exact h v (volumeAmong_some hamong).1

/-- What a faithful look at a snapshot finds. -/
theorem foundSnapshot_faithful (id : String) {scope : String} {ids : Option (List String)}
    {volume : Option String} {outcome : Except Fault (List (Option RemoteSnapshot))}
    (h : Exchange.Faithful Scopes ⟨.describeSnapshots scope ids volume, outcome⟩) :
    Unrefused (foundSnapshot id outcome) ∧
      ∀ s, foundSnapshot id outcome = .ok (some s) → s.IsProper scope := by
  refine ⟨h.unrefused.orNone.map _, fun s hs => ?_⟩
  obtain ⟨answers, rfl, hamong⟩ := among_of_foundSnapshot hs
  exact h s (snapshotAmong_some hamong).1

end Lifecycle

/-! ## Waits -/

/-- A wait whose fetches refuse nothing refuses nothing. What the fetches need to know of a state
holds of the first one, of every state that a fetch finds, and so of the last one. -/
theorem Wait.Course.unrefused {τ σ : Type} [Viewed τ] {w : Wait τ}
    {Fetches : τ → List σ → Except Fault τ → Prop} {P : τ → Prop} {Good : σ → Prop}
    (hfetch : ∀ t es r, P t → (∀ e ∈ es, Good e) → Fetches t es r →
      Unrefused r ∧ ∀ s, r = .ok s → P s)
    {left used total : Nat} {first : τ} {es : List σ} {ending : Ending τ}
    (h : w.Course Fetches left used first es ending total) (hfirst : P first)
    (hes : ∀ e ∈ es, Good e) :
    (∀ why, ending = .stopped why → why.isArgument = false) ∧
      ∀ last, ending = .ready last → P last := by
  induction h with
  | failed _ => exact ⟨nofun, nofun⟩
  | exhausted _ => exact ⟨nofun, nofun⟩
  | gone _ _ _ => exact ⟨nofun, nofun⟩
  | ready _ _ => exact ⟨nofun, fun _ h => Ending.ready.inj h ▸ hfirst⟩
  | cancelled _ => exact ⟨fun _ h => Ending.stopped.inj h ▸ rfl, nofun⟩
  | broken _ hlook _ =>
    have hwhy := (hfetch _ _ _ hfirst hes hlook).1 _ rfl
    exact ⟨fun _ h => Ending.stopped.inj h ▸ hwhy, nofun⟩
  | fetched _ hlook _ ih =>
    have hstate := (hfetch _ _ _ hfirst (fun e he => hes e (List.mem_append_left _ he)) hlook).2
    exact ih (hstate _ rfl) fun e he => hes e (List.mem_append_right _ he)

theorem Wait.Settles.unrefused {τ σ : Type} [Viewed τ] {w : Wait τ}
    {Fetches : τ → List σ → Except Fault τ → Prop} {P : τ → Prop} {Good : σ → Prop}
    (hfetch : ∀ t es r, P t → (∀ e ∈ es, Good e) → Fetches t es r →
      Unrefused r ∧ ∀ s, r = .ok s → P s)
    {first : τ} {es : List σ} {r : Except Fault (Option τ)} (h : w.Settles Fetches first es r)
    (hfirst : P first) (hes : ∀ e ∈ es, Good e) :
    Unrefused r ∧ ∀ last, r = .ok (some last) → P last := by
  obtain ⟨ending, total, hcourse, rfl⟩ := h
  have hends := hcourse.unrefused hfetch hfirst hes
  cases ending with
  | ready last => exact ⟨.ok _, fun _ h => Option.some.inj (Except.ok.inj h) ▸ hends.2 last rfl⟩
  | gone => exact ⟨.ok _, nofun⟩
  | exhausted last => exact ⟨.error rfl, nofun⟩
  | failedState last => exact ⟨.error rfl, nofun⟩
  | stopped why => exact ⟨.error (hends.1 why rfl), nofun⟩

/-- A wait for what is so already is over. -/
theorem Wait.Settles.of_ready {τ σ : Type} [Viewed τ] {w : Wait τ}
    {Fetches : τ → List σ → Except Fault τ → Prop} {first : τ} {es : List σ}
    {r : Except Fault (Option τ)} (h : w.Settles Fetches first es r)
    (hfailed : w.failed first = false) (hready : w.ready first = true) :
    es = [] ∧ r = .ok (some first) := by
  obtain ⟨ending, total, hcourse, rfl⟩ := h
  have hdecided : ¬ w.Undecided first := fun hundecided => by
    rw [hundecided.2] at hready
    cases hready
  generalize w.attempts.toNat = left at hcourse
  cases hcourse with
  | failed h => cases hfailed.symm.trans h
  | ready _ _ => exact ⟨rfl, rfl⟩
  | exhausted h => exact absurd h hdecided
  | cancelled h => exact absurd h hdecided
  | fetched h _ _ => exact absurd h hdecided
  | gone h _ _ => exact absurd h hdecided
  | broken h _ _ => exact absurd h hdecided

namespace Lifecycle

variable {γ : Type} {c : Lifecycle γ} {Scopes : String → Prop}

theorem VolumeLook.unrefused {scope : String} (hscope : IsPart scope) (v : RemoteVolume)
    (xs : List Exchange) (r : Except Fault RemoteVolume) (hv : v.IsProper scope)
    (hxs : ∀ x ∈ xs, x.Faithful Scopes) (h : VolumeLook v xs r) :
    Unrefused r ∧ ∀ u, r = .ok u → u.IsProper scope := by
  obtain ⟨outcome, rfl, rfl⟩ := h
  have hfound := foundVolume_faithful v.volumeId (hxs _ List.mem_cons_self)
  rw [hv.scope_eq] at hfound ⊢
  exact ⟨orMissing_unrefused hscope hv.id hfound.1,
    fun u hu => hfound.2 u (found_of_orMissing_ok hu.symm)⟩

theorem unrefused_of_volumeWait {w : Wait RemoteVolume} {first : RemoteVolume}
    {xs : List Exchange} {r : Except Fault (Option RemoteVolume)}
    (h : w.Settles VolumeLook first xs r) {scope : String} (hscope : IsPart scope)
    (hfirst : first.IsProper scope) (hxs : ∀ x ∈ xs, x.Faithful Scopes) : Unrefused r :=
  (h.unrefused (VolumeLook.unrefused hscope) hfirst hxs).1

theorem SnapshotLook.unrefused {scope : String} (hscope : IsPart scope) (s : RemoteSnapshot)
    (xs : List Exchange) (r : Except Fault RemoteSnapshot) (hs : s.IsProper scope)
    (hxs : ∀ x ∈ xs, x.Faithful Scopes) (h : SnapshotLook s xs r) :
    Unrefused r ∧ ∀ t, r = .ok t → t.IsProper scope := by
  obtain ⟨outcome, rfl, rfl⟩ := h
  have hfound := foundSnapshot_faithful s.snapshotId (hxs _ List.mem_cons_self)
  rw [hs.scope_eq] at hfound ⊢
  exact ⟨orMissing_unrefused hscope hs.id hfound.1,
    fun t ht => hfound.2 t (found_of_orMissing_ok ht.symm)⟩

theorem unrefused_of_snapshotWait {w : Wait RemoteSnapshot} {first : RemoteSnapshot}
    {xs : List Exchange} {r : Except Fault (Option RemoteSnapshot)}
    (h : w.Settles SnapshotLook first xs r) {scope : String} (hscope : IsPart scope)
    (hfirst : first.IsProper scope) (hxs : ∀ x ∈ xs, x.Faithful Scopes) :
    Unrefused r ∧ ∀ last, r = .ok (some last) → last.IsProper scope :=
  h.unrefused (SnapshotLook.unrefused hscope) hfirst hxs

theorem attachmentOn_isProper {absent : AttachmentStatus} {a : RemoteAttachment} {v : RemoteVolume}
    (ha : a.IsProper) (hv : ∀ b ∈ v.attachments, b.IsProper) :
    (attachmentOn absent a v).IsProper := by
  rw [attachmentOn, RemoteVolume.attachment?]
  cases hb : v.attachments.find? (·.passes (some a.device) (some a.instanceId)) with
  | none => exact ⟨ha.volume, ha.instanceId⟩
  | some b => exact hv b (List.mem_of_find?_eq_some hb)

theorem AttachmentLook.unrefused {scope : String} (hscope : IsPart scope)
    (absent : AttachmentStatus) (a : RemoteAttachment) (xs : List Exchange)
    (r : Except Fault RemoteAttachment) (ha : a.IsProper) (hxs : ∀ x ∈ xs, x.Faithful Scopes)
    (h : AttachmentLook scope absent a xs r) : Unrefused r ∧ ∀ b, r = .ok b → b.IsProper := by
  obtain ⟨outcome, rfl, rfl⟩ := h
  have hfound := foundVolume_faithful a.volumeId (hxs _ List.mem_cons_self)
  refine ⟨(orMissing_unrefused hscope ha.volume hfound.1).map _, fun b hb => ?_⟩
  obtain ⟨v, hv, rfl⟩ := found_of_orMissing hb.symm
  exact attachmentOn_isProper ha (hfound.2 v hv).attachments

theorem unrefused_of_attachmentWait {w : Wait RemoteAttachment} {scope : String}
    {absent : AttachmentStatus} {first : RemoteAttachment} {xs : List Exchange}
    {r : Except Fault (Option RemoteAttachment)}
    (h : w.Settles (AttachmentLook scope absent) first xs r) (hscope : IsPart scope)
    (hfirst : first.IsProper) (hxs : ∀ x ∈ xs, x.Faithful Scopes) : Unrefused r :=
  (h.unrefused (AttachmentLook.unrefused hscope absent) hfirst hxs).1

/-! ## Flows past their arguments -/

theorem unrefused_of_opened {α ρ : Type} {look : Exchange} {found : Except Fault (Option ρ)}
    {negative : α} {Rest : ρ → List Exchange → Except Fault α → Prop} {xs : List Exchange}
    {r : Except Fault α} (h : Opened look found negative Rest xs r) (hfound : Unrefused found)
    (hrest : ∀ a ys, (∀ y ∈ ys, y ∈ xs) → found = .ok (some a) → Rest a ys r → Unrefused r) :
    Unrefused r := by
  cases h with
  | lost hf => exact .error (hfound _ hf)
  | missing _ => exact .ok _
  | found ha hr => exact hrest _ _ (fun y hy => List.mem_cons_of_mem _ hy) ha hr

theorem unrefused_of_openedByVolume {α : Type} {h : Handle} {negative : α}
    {Rest : RemoteVolume → List Exchange → Except Fault α → Prop} {xs : List Exchange}
    {r : Except Fault α} (hstory : OpenedByVolume h negative Rest xs r)
    (hxs : ∀ x ∈ xs, x.Faithful Scopes)
    (hrest : ∀ v ys, (∀ y ∈ ys, y.Faithful Scopes) → v.IsProper h.scope → Rest v ys r →
      Unrefused r) : Unrefused r := by
  obtain ⟨outcome, hopened⟩ := hstory
  have hlook : (⟨.describeVolumes h.scope [h.localId], outcome⟩ : Exchange) ∈ xs := by
    cases hopened <;> exact List.mem_cons_self
  have hfound := foundVolume_faithful h.localId (hxs _ hlook)
  exact unrefused_of_opened hopened hfound.1 fun v ys hys hv hr =>
    hrest v ys (fun y hy => hxs y (hys y hy)) (hfound.2 v hv) hr

theorem unrefused_of_openedBySnapshot {α : Type} {h : Handle} {negative : α}
    {Rest : RemoteSnapshot → List Exchange → Except Fault α → Prop} {xs : List Exchange}
    {r : Except Fault α} (hstory : OpenedBySnapshot h negative Rest xs r)
    (hxs : ∀ x ∈ xs, x.Faithful Scopes)
    (hrest : ∀ s ys, (∀ y ∈ ys, y.Faithful Scopes) → s.IsProper h.scope → Rest s ys r →
      Unrefused r) : Unrefused r := by
  obtain ⟨outcome, hopened⟩ := hstory
  have hlook : (⟨.describeSnapshots h.scope (some [h.localId]) none, outcome⟩ : Exchange) ∈ xs := by
    cases hopened <;> exact List.mem_cons_self
  have hfound := foundSnapshot_faithful h.localId (hxs _ hlook)
  exact unrefused_of_opened hopened hfound.1 fun s ys hys hs hr =>
    hrest s ys (fun y hy => hxs y (hys y hy)) (hfound.2 s hs) hr

theorem finalVolume_unrefused {created : RemoteVolume} {scope : String} (hscope : IsPart scope)
    (hcreated : created.IsProper scope) {found : Except Fault (Option RemoteVolume)}
    (hfound : Unrefused found) (hproper : ∀ v, found = .ok (some v) → v.IsProper scope) :
    Unrefused (finalVolume created found) := by
  cases found with
  | error f => exact .error (hfound f rfl)
  | ok o =>
    cases o with
    | none =>
      obtain ⟨handle, hhandle⟩ :=
        Handle.encode_of_isPart (hcreated.scope_eq.symm ▸ hscope) hcreated.id
      rw [finalVolume, hhandle]
      exact .ok _
    | some final =>
      obtain ⟨volume, hvolume⟩ := (hproper final rfl).toVolume hscope
      rw [finalVolume, hvolume]
      exact .ok _

theorem Ordered.order_mem {order : Exchange} {outcome : Except Fault RemoteVolume}
    {xs : List Exchange} {r : Except Fault (Option Volume)}
    (h : Ordered c [order] outcome xs r) : order ∈ xs := by
  cases h <;> exact List.mem_cons_self

theorem Ordered.unrefused {order : Exchange} {outcome : Except Fault RemoteVolume}
    {xs : List Exchange} {r : Except Fault (Option Volume)} (h : Ordered c [order] outcome xs r)
    {scope : String} (hscope : IsPart scope) (herror : Unrefused outcome)
    (hcreated : ∀ created, outcome = .ok created → created.IsProper scope)
    (hxs : ∀ x ∈ xs, x.Faithful Scopes) : Unrefused r := by
  cases h with
  | refused => exact .error (herror _ rfl)
  | unsettled hwait =>
    have hwaited := unrefused_of_volumeWait hwait hscope (hcreated _ rfl)
      fun x hx => hxs x (List.mem_append_right _ hx)
    exact .error (hwaited _ rfl)
  | @settled _ created _ _ look =>
    have hlast := hxs _ (List.mem_append_right _ (List.mem_append_right _ List.mem_cons_self))
    have hfound := foundVolume_faithful created.volumeId hlast
    rw [(hcreated _ rfl).scope_eq] at hfound
    exact finalVolume_unrefused hscope (hcreated _ rfl) hfound.1 hfound.2

theorem Creation.unrefused {o : ZonedVolumeOptions} {scope : String} {source : Option Handle}
    {xs : List Exchange} {r : Except Fault (Option Volume)} (h : Creation c o scope source xs r)
    (hscope : IsPart scope) (hxs : ∀ x ∈ xs, x.Faithful Scopes) : Unrefused r := by
  cases h with
  | fresh outcome hordered =>
    have horder := hxs _ (hordered.order_mem)
    refine hordered.unrefused hscope ?_ ?_ hxs
    · rintro f rfl
      exact horder
    · rintro created rfl
      exact horder
  | restored hopened =>
    refine unrefused_of_openedBySnapshot hopened hxs fun s ys hys _ hrest => ?_
    obtain ⟨outcome, hordered⟩ := hrest
    have horder := hys _ (hordered.order_mem)
    refine hordered.unrefused hscope ?_ ?_ hys
    · rintro f rfl
      exact horder
    · rintro created rfl
      exact horder

theorem unlessMissing_unrefused {α : Type} {r : Except Fault α} (h : Unrefused r) :
    Unrefused (unlessMissing r) := by
  cases r with
  | ok a => exact .ok true
  | error f =>
    rw [unlessMissing]
    split
    · exact .ok false
    · exact .error (h f rfl)

theorem Attaching.unrefused {device : String} {v n : Handle} {xs : List Exchange}
    {r : Except Fault Bool} (h : Attaching c device v n xs r) (hscope : IsPart v.scope)
    (hxs : ∀ x ∈ xs, x.Faithful Scopes) : Unrefused r := by
  cases h with
  | refused f =>
    have hf : f.isArgument = false := hxs _ List.mem_cons_self
    exact unlessMissing_unrefused (.error hf)
  | @waited a _ _ hwait =>
    have ha : a.IsProper := hxs _ List.mem_cons_self
    exact unlessMissing_unrefused (unrefused_of_attachmentWait hwait hscope ha fun x hx =>
      hxs x (List.mem_cons_of_mem _ hx))

theorem Detachment.unrefused {v : Handle} {target : DetachTarget} {instanceId : Option String}
    {remote : RemoteVolume} {xs : List Exchange} {r : Except Fault Bool}
    (h : Detachment c v target instanceId remote xs r) (hscope : IsPart v.scope)
    (hremote : remote.IsProper v.scope) (hxs : ∀ x ∈ xs, x.Faithful Scopes) : Unrefused r := by
  cases h with
  | unmatched _ => exact .ok false
  | @matched found _ _ hfound hdetaching =>
    cases hdetaching with
    | refused f =>
      have hf : f.isArgument = false := hxs _ List.mem_cons_self
      exact unlessMissing_unrefused (.error hf)
    | @unsettled a _ f hwait =>
      have ha : a.IsProper := hxs _ List.mem_cons_self
      have hwaited := unrefused_of_attachmentWait hwait hscope ha fun x hx =>
        hxs x (List.mem_cons_of_mem _ hx)
      exact .error (hwaited f rfl)
    | settled _ =>
      have hproper := hremote.attachments found (List.mem_of_find?_eq_some hfound)
      obtain ⟨node, hnode⟩ := Handle.encode_of_isPart hscope hproper.instanceId
      rw [hnode]
      exact .ok true

theorem Removal.unrefused {v : Handle} {remote : RemoteVolume} {xs : List Exchange}
    {r : Except Fault Bool} (h : Removal c v remote xs r) (hscope : IsPart v.scope)
    (hremote : remote.IsProper v.scope) (hxs : ∀ x ∈ xs, x.Faithful Scopes) : Unrefused r := by
  cases h with
  | refused _ => exact .error (hxs _ List.mem_cons_self)
  | gone _ => exact .ok true
  | waited hwait =>
    exact (unrefused_of_volumeWait hwait hscope hremote fun x hx =>
      hxs x (List.mem_cons_of_mem _ hx)).map _

/-- Options of the wrong kind are no refused argument of this sort. -/
theorem snapshotName_unrefused (options : Options) : Unrefused (snapshotName options) := by
  rw [snapshotName]
  split
  · cases options with
    | snapshot o => exact .ok _
    | _ => exact .error rfl
  · exact .ok _

/-- The record that a snapshot is made of is the one of the last look, of the wait, or of the
answer to the request: all of them convert. -/
theorem finalSnapshot_unrefused {source : RemoteVolume} {pending : RemoteSnapshot}
    {completed : Option RemoteSnapshot} {scope : String} (hscope : IsPart scope)
    (hpending : pending.IsProper scope) (hcompleted : ∀ s, completed = some s → s.IsProper scope)
    {found : Except Fault (Option RemoteSnapshot)} (hfound : Unrefused found)
    (hproper : ∀ s, found = .ok (some s) → s.IsProper scope) :
    Unrefused (finalSnapshot source pending completed found) := by
  cases found with
  | error f => exact .error (hfound f rfl)
  | ok final =>
    have hremote : ((final.orElse fun _ => completed).getD pending).IsProper scope := by
      cases final with
      | some s => exact hproper s rfl
      | none =>
        cases completed with
        | some s => exact hcompleted s rfl
        | none => exact hpending
    obtain ⟨snapshot, hsnapshot⟩ := hremote.toSnapshot hscope (some source.sizeGb)
    rw [finalSnapshot, hsnapshot]
    exact .ok _

theorem Copying.unrefused {v : Handle} {options : Options} {source : RemoteVolume}
    {xs : List Exchange} {r : Except Fault (Option Snapshot)}
    (h : Copying c v options source xs r) (hscope : IsPart v.scope)
    (hxs : ∀ x ∈ xs, x.Faithful Scopes) : Unrefused r := by
  cases h with
  | unnamed hname => exact .error (snapshotName_unrefused options _ hname)
  | refused _ f =>
    have hf : f.isArgument = false := hxs _ List.mem_cons_self
    exact (Unrefused.error hf).orNone.map _
  | @unsettled _ _ pending _ f hwait =>
    have hpending : pending.IsProper v.scope := hxs _ List.mem_cons_self
    have hwaited := unrefused_of_snapshotWait hwait hscope hpending fun x hx =>
      hxs x (List.mem_cons_of_mem _ hx)
    exact .error (hwaited.1 f rfl)
  | @settled _ _ pending waited last hwait outcome =>
    have hpending : pending.IsProper v.scope := hxs _ List.mem_cons_self
    have hwaited := unrefused_of_snapshotWait hwait hscope hpending fun x hx =>
      hxs x (List.mem_cons_of_mem _ (List.mem_append_left _ hx))
    have hlast := hxs _ (List.mem_cons_of_mem _ (List.mem_append_right _ List.mem_cons_self))
    have hfound := foundSnapshot_faithful pending.snapshotId hlast
    rw [hpending.scope_eq] at hfound
    exact finalSnapshot_unrefused hscope hpending (fun s hs => hwaited.2 s (congrArg _ hs)) hfound.1
      hfound.2

theorem Deletion.unrefused {s : Handle} {xs : List Exchange} {r : Except Fault Bool}
    (h : Deletion s xs r) (hxs : ∀ x ∈ xs, x.Faithful Scopes) : Unrefused r := by
  cases h with
  | refused _ => exact .error (hxs _ List.mem_cons_self)
  | looked _ outcome =>
    have hlast := hxs _ (List.mem_cons_of_mem _ List.mem_cons_self)
    exact (foundSnapshot_faithful s.localId hlast).1.map _

theorem Listing.unrefused {β : Type} [BEq β] {r : Request}
    {convert : r.Answer → Except BadArgument (List β)} {xs : List Exchange}
    {result : Except Fault (List β)} (h : Listing r convert xs result)
    (hconvert : ∀ answer, r.Proper Scopes answer → ∃ list, convert answer = .ok list)
    (hxs : ∀ x ∈ xs, x.Faithful Scopes) : Unrefused result := by
  obtain ⟨outcome, rfl, rfl⟩ := h
  have houtcome := hxs _ List.mem_cons_self
  refine Unrefused.map (converted_unrefused ?_ ?_) _
  · rintro f rfl
    exact houtcome
  · rintro answer rfl
    exact hconvert answer houtcome

end Lifecycle

end BlockStorage
