import BlockStorage.Proofs.Lifecycle.Talk

/-!
# How the changing flows go

Every changing flow is told here by its exchanges and its answer, with a case for
each way in which it may end. Three steps are common to them: arguments are
admitted or refused, a resource is looked up, and a change that was accepted is
waited for.

* `Lifecycle.Admitted`: a refused argument ends a flow before its first request.
* `Lifecycle.Opened`: a resource that cannot be looked up, or is not there, ends a
  flow before its second one.
* `Lifecycle.Creation`, `Lifecycle.Attaching`, `Lifecycle.Detaching`, …: what
  follows, flow by flow.
* `Lifecycle.tells_createVolume`, `Lifecycle.tells_attachVolume`, …: the flows go
  so, whatever the gateway.
-/

namespace BlockStorage.Lifecycle

variable {γ α δ ρ : Type} {c : Lifecycle γ}

/-! ## Arguments and openings -/

/-- A flow whose arguments may be refused. -/
inductive Admitted (arguments : Except Fault δ)
    (Rest : δ → List Exchange → Except Fault α → Prop) : List Exchange → Except Fault α → Prop
  | refused {f : Fault} (h : arguments = .error f) : Admitted arguments Rest [] (.error f)
  | admitted {d : δ} {xs : List Exchange} {r : Except Fault α} (h : arguments = .ok d)
      (rest : Rest d xs r) : Admitted arguments Rest xs r

/-- A flow that looks a resource up at first; one that is missing gives a negative answer. -/
inductive Opened (look : Exchange) (found : Except Fault (Option ρ)) (negative : α)
    (Rest : ρ → List Exchange → Except Fault α → Prop) : List Exchange → Except Fault α → Prop
  | lost {f : Fault} (h : found = .error f) : Opened look found negative Rest [look] (.error f)
  | missing (h : found = .ok none) : Opened look found negative Rest [look] (.ok negative)
  | found {a : ρ} {xs : List Exchange} {r : Except Fault α} (h : found = .ok (some a))
      (rest : Rest a xs r) : Opened look found negative Rest (look :: xs) r

/-- A flow that looks up a volume. -/
def OpenedByVolume (h : Handle) (negative : α)
    (Rest : RemoteVolume → List Exchange → Except Fault α → Prop) (xs : List Exchange)
    (r : Except Fault α) : Prop :=
  ∃ outcome, Opened ⟨.describeVolumes h.scope [h.localId], outcome⟩
    (foundVolume h.localId outcome) negative Rest xs r

/-- A flow that looks up a snapshot. -/
def OpenedBySnapshot (h : Handle) (negative : α)
    (Rest : RemoteSnapshot → List Exchange → Except Fault α → Prop) (xs : List Exchange)
    (r : Except Fault α) : Prop :=
  ∃ outcome, Opened ⟨.describeSnapshots h.scope (some [h.localId]) none, outcome⟩
    (foundSnapshot h.localId outcome) negative Rest xs r

theorem Tells.admitted {arguments : Except BadArgument δ} {next : δ → Flow γ α}
    {Rest : δ → List Exchange → Except Fault α → Prop}
    (h : ∀ d, arguments = .ok d → c.Tells (next d) (Rest d)) :
    c.Tells (Flow.check arguments >>= next) (Admitted (arguments.mapError .argument) Rest) := by
  refine .bind (.check _ ?_)
  cases he : arguments with
  | error why => exact .refused rfl
  | ok d => exact (h d he).mono fun xs r hr => .admitted rfl hr

/-- A flow that begins with a look, which tells a resource, or that there is none. -/
theorem Tells.opened {ω : Type} {flow : Flow γ (Option ρ)} {look : ω → Exchange}
    {found : ω → Except Fault (Option ρ)} {negative : α} {next : Option ρ → Flow γ α}
    {Rest : ρ → List Exchange → Except Fault α → Prop}
    (hflow : ∀ {P : List Exchange → Except Fault (Option ρ) → Prop},
      (∀ outcome, P [look outcome] (found outcome)) → c.Tells flow P)
    (hnone : c.Tells (next none) fun xs r => xs = [] ∧ r = .ok negative)
    (hsome : ∀ a, c.Tells (next (some a)) (Rest a)) :
    c.Tells (flow >>= next) fun xs r =>
      ∃ outcome, Opened (look outcome) (found outcome) negative Rest xs r := by
  refine .bind (hflow fun outcome => ?_)
  cases hf : found outcome with
  | error f => exact ⟨outcome, .lost hf⟩
  | ok resource =>
    cases resource with
    | none =>
      refine hnone.mono ?_
      rintro _ _ ⟨rfl, rfl⟩
      exact ⟨outcome, .missing hf⟩
    | some a => exact (hsome a).mono fun xs r hr => ⟨outcome, .found hf hr⟩

theorem Tells.openedByVolume {h : Handle} {negative : α} {next : Option RemoteVolume → Flow γ α}
    {Rest : RemoteVolume → List Exchange → Except Fault α → Prop}
    (hnone : c.Tells (next none) fun xs r => xs = [] ∧ r = .ok negative)
    (hsome : ∀ v, c.Tells (next (some v)) (Rest v)) :
    c.Tells (c.volume? h.scope h.localId >>= next) (OpenedByVolume h negative Rest) :=
  .opened .volume? hnone hsome

theorem Tells.openedBySnapshot {h : Handle} {negative : α}
    {next : Option RemoteSnapshot → Flow γ α}
    {Rest : RemoteSnapshot → List Exchange → Except Fault α → Prop}
    (hnone : c.Tells (next none) fun xs r => xs = [] ∧ r = .ok negative)
    (hsome : ∀ s, c.Tells (next (some s)) (Rest s)) :
    c.Tells (c.snapshot? h.scope h.localId >>= next) (OpenedBySnapshot h negative Rest) :=
  .opened .snapshot? hnone hsome

/-- A resource that is missing, counted and logged. -/
theorem Tells.missing_then {operation resource : String} (a : α) :
    c.Tells (do c.missing operation resource; return a) fun xs r => xs = [] ∧ r = .ok a :=
  .bind (.missing _ _ (.pure a ⟨rfl, rfl⟩))

/-! ## Creating a volume -/

/-- The options, the scope and the source of a volume to be made. -/
def creationArguments : Options → Except Fault (ZonedVolumeOptions × String × Option Handle)
  | .zonedVolume o => ((placement o).map fun p => (o, p)).mapError .argument
  | .volume _ => .error (.argument .zoneRequired)
  | o => .error (.argument (.unsupportedVolumeOptions (Viewed.view o)))

/-- The wait for a volume that was ordered. -/
def creationWait (c : Lifecycle γ) : Wait RemoteVolume :=
  c.waitOf "create_volume" "volume_available" RemoteVolume.isAvailable RemoteVolume.isFailed false

/-- What becomes of the volume as the last look finds it. -/
def finalVolume (created : RemoteVolume) :
    Except Fault (Option RemoteVolume) → Except Fault (Option Volume)
  | .error f => .error f
  | .ok (some final) => (final.toVolume.map some).mapError .argument
  | .ok none =>
    ((Handle.encode created.scope created.volumeId).map fun _ => none).mapError .argument

/-- An order, and what follows from it. -/
inductive Ordered (c : Lifecycle γ) :
    List Exchange → Except Fault RemoteVolume → List Exchange → Except Fault (Option Volume) → Prop
  | refused {order : List Exchange} {f : Fault} : Ordered c order (.error f) order (.error f)
  | unsettled {order waited : List Exchange} {created : RemoteVolume} {f : Fault}
      (hwait : c.creationWait.Settles VolumeLook created waited (.error f)) :
      Ordered c order (.ok created) (order ++ waited) (.error f)
  | settled {order waited : List Exchange} {created : RemoteVolume} {last : Option RemoteVolume}
      (hwait : c.creationWait.Settles VolumeLook created waited (.ok last))
      (outcome : Except Fault (List (Option RemoteVolume))) :
      Ordered c order (.ok created)
        (order ++ (waited ++ [⟨.describeVolumes created.scope [created.volumeId], outcome⟩]))
        (finalVolume created (foundVolume created.volumeId outcome))

/-- The creation of a volume, restored from a source or empty. -/
inductive Creation (c : Lifecycle γ) (o : ZonedVolumeOptions) (scope : String) :
    Option Handle → List Exchange → Except Fault (Option Volume) → Prop
  | fresh {xs : List Exchange} {r : Except Fault (Option Volume)}
      (outcome : Except Fault RemoteVolume)
      (h : Ordered c [⟨.createVolume scope (.real (o.sizeGb.getD 0.0)) o.zone, outcome⟩] outcome
        xs r) : Creation c o scope none xs r
  | restored {source : Handle} {xs : List Exchange} {r : Except Fault (Option Volume)}
      (h : OpenedBySnapshot source none (fun _ ys s => ∃ outcome,
        Ordered c [⟨.restoreVolume scope source.localId o.zone (.ofReal? o.sizeGb), outcome⟩]
          outcome ys s) xs r) : Creation c o scope (some source) xs r

theorem tells_settleVolume (c : Lifecycle γ) (name : Datum) (o : ZonedVolumeOptions)
    (created : RemoteVolume) : c.Tells (c.settleVolume name o created) fun xs r =>
      ∀ order, Ordered c order (.ok created) (order ++ xs) r := by
  refine .bind (.waitFor .refreshVolume fun waited r hwait => ?_)
  cases r with
  | error f => exact fun order => .unsettled hwait
  | ok last =>
    refine .bind (.volume? fun outcome => ?_)
    have hsettled : ∀ order, Ordered c order _ _ _ := fun _ => .settled hwait outcome
    cases hf : foundVolume created.volumeId outcome with
    | error f =>
      rw [hf] at hsettled
      exact hsettled
    | ok found =>
      rw [hf] at hsettled
      cases found with
      | none =>
        refine .bind (.check _ ?_)
        rw [finalVolume] at hsettled
        cases hid : Handle.encode created.scope created.volumeId with
        | error why =>
          rw [hid] at hsettled
          exact hsettled
        | ok handle =>
          rw [hid] at hsettled
          exact .bind (.missing _ _ (.pure _ hsettled))
      | some final =>
        refine .bind (.check _ ?_)
        rw [finalVolume] at hsettled
        cases hv : final.toVolume with
        | error why =>
          rw [hv] at hsettled
          exact hsettled
        | ok volume =>
          rw [hv] at hsettled
          exact .bind (.count _ _ (.bind (.log _ _ _ _ (.pure _ hsettled))))

theorem tells_creation (c : Lifecycle γ) (name : Datum) (o : ZonedVolumeOptions) (scope : String)
    (source : Option Handle) :
    c.Tells (do
      match ← c.orderVolume o scope source with
      | none => do
        c.missing "create_volume" (o.snapshotId.getD "")
        return none
      | some created => c.settleVolume name o created) (Creation c o scope source) := by
  cases source with
  | none =>
    refine .bind (.bind (.ask fun outcome => ?_))
    cases outcome with
    | error f => exact .fresh _ .refused
    | ok created =>
      refine .pure _ ?_
      exact (tells_settleVolume c name o created).mono fun xs r hr => .fresh _ (hr _)
  | some source =>
    refine .bind (.bind (.snapshot? fun look => ?_))
    cases hf : foundSnapshot source.localId look with
    | error f => exact .restored ⟨look, .lost hf⟩
    | ok found =>
      cases found with
      | none =>
        refine .pure _ ((Tells.missing_then none).mono ?_)
        rintro _ _ ⟨rfl, rfl⟩
        exact .restored ⟨look, .missing hf⟩
      | some s =>
        refine .bind (.ask fun outcome => ?_)
        cases outcome with
        | error f => exact .restored ⟨look, .found hf ⟨_, .refused⟩⟩
        | ok created =>
          refine .pure _ ((tells_settleVolume c name o created).mono fun xs r hr => ?_)
          exact .restored ⟨look, .found hf ⟨_, hr _⟩⟩

theorem tells_createVolume (c : Lifecycle γ) (name : Datum) (options : Options) :
    c.Tells (c.createVolume name options)
      (Admitted (creationArguments options) fun a => Creation c a.1 a.2.1 a.2.2) := by
  cases options with
  | zonedVolume o =>
    refine .bind (.check _ ?_)
    cases hp : placement o with
    | error why => exact .refused (by rw [creationArguments, hp]; rfl)
    | ok p =>
      refine (tells_creation c name o p.1 p.2).tracked.mono fun xs r hr => ?_
      exact .admitted (by rw [creationArguments, hp]; rfl) hr
  | volume _ => exact .throw _ (.refused rfl)
  | _ => exact .throw _ (.refused rfl)

/-! ## Attaching a volume -/

/-- The device, the volume and the node of an attachment to be made. -/
def attachArguments (volume node : String) (options : Options) :
    Except Fault (String × Handle × Handle) := do
  let device ← options.requiredDevice
  let (v, n) ← (Handle.sameScope volume node).mapError .argument
  return (device, v, n)

/-- The wait for an attachment that was asked for. -/
def attachWait (c : Lifecycle γ) : Wait RemoteAttachment :=
  c.waitOf "attach_volume" "attachment_attached" RemoteAttachment.isAttached never false

/-- Success, but for a resource that is missing. -/
def unlessMissing : Except Fault α → Except Fault Bool
  | .ok _ => .ok true
  | .error f => if f.isNotFound then .ok false else .error f

/-- The attachment of a volume. -/
inductive Attaching (c : Lifecycle γ) (device : String) (v n : Handle) :
    List Exchange → Except Fault Bool → Prop
  | refused (f : Fault) : Attaching c device v n
      [⟨.attachVolume v.scope v.localId n.localId device, .error f⟩]
      (unlessMissing (.error f : Except Fault Unit))
  | waited {a : RemoteAttachment} {waited : List Exchange}
      {r : Except Fault (Option RemoteAttachment)}
      (hwait : c.attachWait.Settles (AttachmentLook v.scope .attaching) a waited r) :
      Attaching c device v n
        (⟨.attachVolume v.scope v.localId n.localId device, .ok a⟩ :: waited) (unlessMissing r)

theorem tells_attachVolume (c : Lifecycle γ) (volume node : String) (options : Options) :
    c.Tells (c.attachVolume volume node options) (Admitted (attachArguments volume node options)
      fun a => Attaching c a.1 a.2.1 a.2.2) := by
  refine .bind (.ofExcept _ ?_)
  cases hd : options.requiredDevice with
  | error f => exact .refused (by rw [attachArguments, hd]; rfl)
  | ok device =>
    refine .bind (.check _ ?_)
    cases hs : Handle.sameScope volume node with
    | error why => exact .refused (by rw [attachArguments, hd, hs]; rfl)
    | ok p =>
      obtain ⟨v, n⟩ := p
      have hargs : attachArguments volume node options = .ok (device, v, n) := by
        rw [attachArguments, hd, hs]
        rfl
      refine .mono ?_ fun xs r hr => .admitted hargs hr
      refine .tracked (.bind (.outcome ?_))
      refine Tells.mono (P := fun xs r => Attaching c device v n xs (unlessMissing r)) ?_ ?_
      · refine .bind (.ask fun outcome => ?_)
        cases outcome with
        | error f => exact .refused f
        | ok a =>
          refine .bind (.waitFor (.refreshAttachment _ _) fun waited r hwait => ?_)
          cases r with
          | error f => exact .waited hwait
          | ok last =>
            refine .pure _ ?_
            rw [List.append_nil]
            exact .waited hwait
      · intro xs r hr
        cases r with
        | ok _ =>
          refine .bind (.count _ _ (.bind (.log _ _ _ _ (.pure _ ?_))))
          simp only [List.append_nil]
          exact hr
        | error f =>
          cases f with
          | notFound resource _ =>
            refine .bind (.missing _ _ (.pure _ ?_))
            simp only [List.append_nil]
            exact hr
          | _ =>
            refine .throw _ ?_
            rw [List.append_nil]
            exact hr

/-! ## Detaching a volume -/

/-- What is to be detached, from which volume, and the instance that the filter names. -/
def detachArguments (volume : String) (options : Options) :
    Except Fault (DetachTarget × Handle × Option String) := do
  let target ← (detachTarget options).mapError .argument
  let (v, instanceId) ← (detachScope volume target.nodeId).mapError .argument
  return (target, v, instanceId)

theorem detachArguments_of_target {volume : String} {options : Options} {why : BadArgument}
    (ht : detachTarget options = .error why) :
    detachArguments volume options = .error (.argument why) := by
  rw [detachArguments, ht]
  rfl

/-- Once the target is known, the handles decide. -/
theorem detachArguments_of_scope {volume : String} {options : Options} {target : DetachTarget}
    (ht : detachTarget options = .ok target) :
    detachArguments volume options = ((detachScope volume target.nodeId).mapError .argument).map
      fun p => (target, p.1, p.2) := by
  rw [detachArguments, ht]
  show Except.bind ((detachScope volume target.nodeId).mapError Fault.argument) _ = _
  cases detachScope volume target.nodeId <;> rfl

theorem detachArguments_eq_ok {volume : String} {options : Options} {target : DetachTarget}
    {v : Handle} {instanceId : Option String} (ht : detachTarget options = .ok target)
    (hs : detachScope volume target.nodeId = .ok (v, instanceId)) :
    detachArguments volume options = .ok (target, v, instanceId) := by
  rw [detachArguments_of_scope ht, hs]
  rfl

theorem detachArguments_eq_error {volume : String} {options : Options} {target : DetachTarget}
    {why : BadArgument} (ht : detachTarget options = .ok target)
    (hs : detachScope volume target.nodeId = .error why) :
    detachArguments volume options = .error (.argument why) := by
  rw [detachArguments_of_scope ht, hs]
  rfl

/-- The wait for an attachment to be gone. -/
def detachWait (c : Lifecycle γ) : Wait RemoteAttachment :=
  c.waitOf "detach_volume" "attachment_detached" RemoteAttachment.isDetached never true

/-- The request to detach an attachment that was found. -/
def detachRequest (v : Handle) (target : DetachTarget) (found : RemoteAttachment) : Request :=
  .detachVolume v.scope v.localId target.force (some found.device) (some found.instanceId)

/-- The detachment of an attachment that was found. -/
inductive Detaching (c : Lifecycle γ) (v : Handle) (target : DetachTarget)
    (found : RemoteAttachment) : List Exchange → Except Fault Bool → Prop
  | refused (f : Fault) : Detaching c v target found
      [⟨detachRequest v target found, .error f⟩] (unlessMissing (.error f : Except Fault Unit))
  | unsettled {a : RemoteAttachment} {waited : List Exchange} {f : Fault}
      (hwait : c.detachWait.Settles (AttachmentLook v.scope .detached) a waited (.error f)) :
      Detaching c v target found (⟨detachRequest v target found, .ok a⟩ :: waited) (.error f)
  | settled {a : RemoteAttachment} {waited : List Exchange} {last : Option RemoteAttachment}
      (hwait : c.detachWait.Settles (AttachmentLook v.scope .detached) a waited (.ok last)) :
      Detaching c v target found (⟨detachRequest v target found, .ok a⟩ :: waited)
        (((Handle.encode v.scope found.instanceId).map fun _ => true).mapError .argument)

/-- What follows once the volume was found: without a matching attachment there is nothing to
detach. -/
inductive Detachment (c : Lifecycle γ) (v : Handle) (target : DetachTarget)
    (instanceId : Option String) (remote : RemoteVolume) :
    List Exchange → Except Fault Bool → Prop
  | unmatched (h : remote.attachment? target.device instanceId = none) :
      Detachment c v target instanceId remote [] (.ok false)
  | matched {found : RemoteAttachment} {xs : List Exchange} {r : Except Fault Bool}
      (h : remote.attachment? target.device instanceId = some found)
      (rest : Detaching c v target found xs r) : Detachment c v target instanceId remote xs r

theorem tells_detachFound (c : Lifecycle γ) (volume : String) (v : Handle) (target : DetachTarget)
    (found : RemoteAttachment) :
    c.Tells (c.detachFound volume v target found) (Detaching c v target found) := by
  refine .bind (.orGone (.ask fun outcome => ?_))
  cases outcome with
  | error f =>
    have hrefused : Detaching c v target found _ _ := .refused f
    by_cases hf : f.isNotFound
    · rw [orNone, if_pos hf]
      rw [unlessMissing, if_pos hf] at hrefused
      exact .bind (.missing _ _ (.pure _ hrefused))
    · rw [orNone, if_neg hf]
      rw [unlessMissing, if_neg hf] at hrefused
      exact hrefused
  | ok a =>
    refine .bind (.waitFor (.refreshAttachment _ _) fun waited r hwait => ?_)
    cases r with
    | error f => exact .unsettled hwait
    | ok last =>
      refine .bind (.count _ _ (.bind (.check _ ?_)))
      have hsettled : Detaching c v target found _ _ := .settled hwait
      cases hid : Handle.encode v.scope found.instanceId with
      | error why =>
        rw [hid] at hsettled
        simp only [List.append_nil]
        exact hsettled
      | ok node =>
        rw [hid] at hsettled
        refine .bind (.log _ _ _ _ (.pure _ ?_))
        simp only [List.append_nil]
        exact hsettled

theorem tells_detachVolume (c : Lifecycle γ) (volume : String) (options : Options) :
    c.Tells (c.detachVolume volume options) (Admitted (detachArguments volume options) fun a =>
      OpenedByVolume a.2.1 false (Detachment c a.2.1 a.1 a.2.2)) := by
  refine .bind (.check _ ?_)
  cases ht : detachTarget options with
  | error why => exact .refused (detachArguments_of_target ht)
  | ok target =>
    refine .bind (.check _ ?_)
    cases hs : detachScope volume target.nodeId with
    | error why => exact .refused (detachArguments_eq_error ht hs)
    | ok p =>
      obtain ⟨v, instanceId⟩ := p
      refine .mono ?_ fun xs r hr => .admitted (detachArguments_eq_ok ht hs) hr
      refine .tracked (.openedByVolume (.missing_then _) fun remote => ?_)
      dsimp only
      split
      · next found hfound =>
        exact (tells_detachFound c volume v target found).mono fun xs r hr => .matched hfound hr
      · next hnone => exact .bind (.count _ _ (.bind (.log _ _ _ _ (.pure _ (.unmatched hnone)))))

/-! ## Removing a volume -/

/-- The wait for a volume to be gone. -/
def removalWait (c : Lifecycle γ) : Wait RemoteVolume :=
  c.waitOf "remove_volume" "volume_deleted" RemoteVolume.isDeleted never true

/-- The removal of a volume that was found; one that goes missing meanwhile is removed. -/
inductive Removal (c : Lifecycle γ) (v : Handle) (remote : RemoteVolume) :
    List Exchange → Except Fault Bool → Prop
  | refused {f : Fault} (h : f.isNotFound = false) :
      Removal c v remote [⟨.deleteVolume v.scope v.localId, .error f⟩] (.error f)
  | gone {f : Fault} (h : f.isNotFound = true) :
      Removal c v remote [⟨.deleteVolume v.scope v.localId, .error f⟩] (.ok true)
  | waited {waited : List Exchange} {r : Except Fault (Option RemoteVolume)}
      (hwait : c.removalWait.Settles VolumeLook remote waited r) :
      Removal c v remote (⟨.deleteVolume v.scope v.localId, .ok ()⟩ :: waited)
        (r.map fun _ => true)

theorem tells_removeVolume (c : Lifecycle γ) (volume : String) :
    c.Tells (c.removeVolume volume) (Admitted ((Handle.decode volume).mapError .argument)
      fun v => OpenedByVolume v false (Removal c v)) := by
  refine .admitted fun v _ => .tracked (.openedByVolume (.missing_then _) fun remote => ?_)
  have hend : ∀ {xs : List Exchange}, Removal c v remote xs (.ok true) →
      c.Tells (do
        c.count "remove_volume" .success
        Flow.log .info "Volume removed" .volumeRemoved [("volume_id", .text volume)]
        return true) fun ys r => Removal c v remote (xs ++ ys) r := by
    intro xs h
    refine .bind (.count _ _ (.bind (.log _ _ _ _ (.pure _ ?_))))
    simp only [List.append_nil]
    exact h
  refine .bind (.orGone (.ask fun outcome => ?_))
  cases outcome with
  | error f =>
    by_cases hf : f.isNotFound
    · rw [orNone, if_pos hf]
      exact hend (.gone hf)
    · rw [orNone, if_neg hf]
      exact .refused (by simpa using hf)
  | ok _ =>
    refine .bind (.waitFor .refreshVolume fun waited r hwait => ?_)
    cases r with
    | error f => exact .waited hwait
    | ok last => exact hend (.waited hwait)

/-! ## Snapshots -/

/-- The name of a snapshot to be made; none is an empty one. It is read once the volume was
found. -/
def snapshotName (options : Options) : Except Fault String :=
  if options.isGiven then options.name?.map (·.getD "") else .ok ""

/-- The wait for a snapshot to be completed. -/
def completionWait (c : Lifecycle γ) : Wait RemoteSnapshot :=
  c.waitOf "create_snapshot" "snapshot_completed" RemoteSnapshot.isCompleted
    RemoteSnapshot.isFailed false

/-- What becomes of a snapshot: it is as the last look finds it, or else as the wait left it. -/
def finalSnapshot (source : RemoteVolume) (pending : RemoteSnapshot)
    (completed : Option RemoteSnapshot) :
    Except Fault (Option RemoteSnapshot) → Except Fault (Option Snapshot)
  | .error f => .error f
  | .ok final => ((((final.orElse fun _ => completed).getD pending).toSnapshot
      (some source.sizeGb)).map some).mapError .argument

/-- The making of a snapshot of a volume that was found. -/
inductive Copying (c : Lifecycle γ) (v : Handle) (options : Options) (source : RemoteVolume) :
    List Exchange → Except Fault (Option Snapshot) → Prop
  | unnamed {f : Fault} (h : snapshotName options = .error f) :
      Copying c v options source [] (.error f)
  | refused {name : String} (h : snapshotName options = .ok name) (f : Fault) :
      Copying c v options source [⟨.createSnapshot v.scope v.localId name, .error f⟩]
        ((orNone (.error f : Except Fault Unit)).map fun _ => none)
  | unsettled {name : String} (h : snapshotName options = .ok name) {pending : RemoteSnapshot}
      {waited : List Exchange} {f : Fault}
      (hwait : c.completionWait.Settles SnapshotLook pending waited (.error f)) :
      Copying c v options source
        (⟨.createSnapshot v.scope v.localId name, .ok pending⟩ :: waited) (.error f)
  | settled {name : String} (h : snapshotName options = .ok name) {pending : RemoteSnapshot}
      {waited : List Exchange} {last : Option RemoteSnapshot}
      (hwait : c.completionWait.Settles SnapshotLook pending waited (.ok last))
      (outcome : Except Fault (List (Option RemoteSnapshot))) :
      Copying c v options source
        (⟨.createSnapshot v.scope v.localId name, .ok pending⟩ :: (waited ++
          [⟨.describeSnapshots pending.scope (some [pending.snapshotId]) none, outcome⟩]))
        (finalSnapshot source pending last (foundSnapshot pending.snapshotId outcome))

/-- The deletion of a snapshot that was found; whether it is gone is what a last look tells. -/
inductive Deletion (s : Handle) : List Exchange → Except Fault Bool → Prop
  | refused {f : Fault} (h : f.isNotFound = false) :
      Deletion s [⟨.deleteSnapshot s.scope s.localId, .error f⟩] (.error f)
  | looked {deleted : Except Fault Unit} (h : ∀ f, deleted = .error f → f.isNotFound = true)
      (outcome : Except Fault (List (Option RemoteSnapshot))) :
      Deletion s [⟨.deleteSnapshot s.scope s.localId, deleted⟩,
          ⟨.describeSnapshots s.scope (some [s.localId]) none, outcome⟩]
        ((foundSnapshot s.localId outcome).map (·.isNone))

/-- The making of a snapshot whose name was read. -/
theorem tells_copying (c : Lifecycle γ) (volume : String) (v : Handle) (options : Options)
    (source : RemoteVolume) {name : Option String}
    (hname : snapshotName options = .ok (name.getD "")) :
    c.Tells (do
      match ← Flow.orGone (c.ask (.createSnapshot v.scope v.localId (name.getD ""))) with
      | none =>
        c.missing "create_snapshot" volume
        return none
      | some pending =>
        let completed ← c.waitFor "create_snapshot" "snapshot_completed"
          RemoteSnapshot.isCompleted RemoteSnapshot.isFailed false c.refreshSnapshot pending
        let final ← c.snapshot? pending.scope pending.snapshotId
        let remote := (final.orElse fun _ => completed).getD pending
        let snapshot ← Flow.check (remote.toSnapshot (some source.sizeGb))
        c.count "create_snapshot" .success
        Flow.log .info "Snapshot created" .snapshotCreated
          [("snapshot_id", .text snapshot.id), ("volume_id", .text volume)]
        return some snapshot) (Copying c v options source) := by
  refine .bind (.orGone (.ask fun outcome => ?_))
  cases outcome with
  | error f =>
    have hrefused : Copying c v options source _ _ := .refused hname f
    by_cases hf : f.isNotFound
    · rw [orNone, if_pos hf] at hrefused ⊢
      exact .bind (.missing _ _ (.pure _ hrefused))
    · rw [orNone, if_neg hf] at hrefused ⊢
      exact hrefused
  | ok pending =>
    refine .bind (.waitFor .refreshSnapshot fun waited r hwait => ?_)
    cases r with
    | error f => exact .unsettled hname hwait
    | ok completed =>
      refine .bind (.snapshot? fun outcome => ?_)
      have hsettled : Copying c v options source _ _ := .settled hname hwait outcome
      cases hf : foundSnapshot pending.snapshotId outcome with
      | error f =>
        rw [hf] at hsettled
        exact hsettled
      | ok final =>
        rw [hf, finalSnapshot] at hsettled
        refine .bind (.check _ ?_)
        cases hs : ((final.orElse fun _ => completed).getD pending).toSnapshot
            (some source.sizeGb) with
        | error why =>
          rw [hs] at hsettled
          exact hsettled
        | ok snapshot =>
          rw [hs] at hsettled
          exact .bind (.count _ _ (.bind (.log _ _ _ _ (.pure _ hsettled))))

theorem tells_createSnapshot (c : Lifecycle γ) (volume : String) (options : Options) :
    c.Tells (c.createSnapshot volume options) (Admitted ((Handle.decode volume).mapError .argument)
      fun v => OpenedByVolume v none (Copying c v options)) := by
  refine .admitted fun v _ => .tracked (.openedByVolume (.missing_then _) fun source => ?_)
  dsimp only
  split
  · next hgiven =>
    refine .bind (.ofExcept _ ?_)
    cases hname : options.name? with
    | error f => exact .unnamed (by rw [snapshotName, if_pos hgiven, hname]; rfl)
    | ok name =>
      refine tells_copying c volume v options source ?_
      rw [snapshotName, if_pos hgiven, hname]
      rfl
  · next hgiven =>
    have hname : snapshotName options = .ok ((none : Option String).getD "") := by
      rw [snapshotName, if_neg hgiven]
      rfl
    exact tells_copying c volume v options source hname

theorem tells_deleteSnapshot (c : Lifecycle γ) (snapshot : String) :
    c.Tells (c.deleteSnapshot snapshot) (Admitted ((Handle.decode snapshot).mapError .argument)
      fun s => OpenedBySnapshot s false fun _ => Deletion s) := by
  refine .admitted fun s _ => .tracked (.openedBySnapshot (.missing_then _) fun _ => ?_)
  have hlook : ∀ {deleted : Except Fault Unit}, (∀ f, deleted = .error f → f.isNotFound = true) →
      c.Tells (do
        let deleted := (← c.snapshot? s.scope s.localId).isNone
        c.count "delete_snapshot" (if deleted then .success else .error)
        Flow.log .info
          (if deleted then "Snapshot deleted" else "Snapshot still present after delete")
          .snapshotDeleted [("snapshot_id", .text snapshot), ("confirmed", .bool deleted)]
        return deleted)
      fun ys r => Deletion s (⟨.deleteSnapshot s.scope s.localId, deleted⟩ :: ys) r := by
    intro deleted hd
    refine .bind (.snapshot? fun outcome => ?_)
    have hlooked : Deletion s _ _ := .looked hd outcome
    cases hf : foundSnapshot s.localId outcome with
    | error f =>
      rw [hf] at hlooked
      exact hlooked
    | ok found =>
      rw [hf] at hlooked
      exact .bind (.count _ _ (.bind (.log _ _ _ _ (.pure _ hlooked))))
  refine .bind (.orGone (.ask fun outcome => ?_))
  cases outcome with
  | error f =>
    by_cases hf : f.isNotFound
    · rw [orNone, if_pos hf]
      exact hlook fun g hg => by obtain rfl := Except.error.inj hg; exact hf
    · rw [orNone, if_neg hf]
      exact .refused (by simpa using hf)
  | ok _ => exact hlook fun g hg => by cases hg

end BlockStorage.Lifecycle
