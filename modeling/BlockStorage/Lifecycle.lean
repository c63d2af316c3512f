import BlockStorage.Budget
import BlockStorage.Gateway
import BlockStorage.Operation
import BlockStorage.Wait

/-!
# Lifecycle flows

Volumes and snapshots of a provider, from the request to the settled state. A
flow that changes something makes one changing call and then waits, within its
budget, until the change has taken effect:

* create: until the volume is available, or has failed;
* attach and detach: until the attachment is attached, or detached;
* remove: until the volume is deleted or gone;
* snapshot: until the snapshot is completed, or has failed.

Arguments are checked before anything is sent. What is absent gives a negative
answer. Failures of the provider pass through; nothing is sent again here.

Every changing flow that gets past its arguments counts one outcome.

* `Lifecycle.ask`: one call of the gateway, run to its end.
* `Lifecycle.tracked`: counts the outcome of a flow that fails.
* `Lifecycle.perform`: the flow of each operation.
-/

namespace BlockStorage

/-! ## Events -/

inductive Outcome
  | success | notFound | timeout | cancelled | error
  deriving DecidableEq, Repr

def Outcome.text : Outcome → String
  | success => "success"
  | notFound => "not_found"
  | timeout => "timeout"
  | cancelled => "cancelled"
  | error => "error"

/-- What a flow reports. -/
inductive Event
  | asked (r : Request)
  /-- The gateway's answer to a request, or its failure. -/
  | answered (r : Request) (outcome : Except Fault r.Answer)
  | wire (e : WireEvent)
  | wait (e : WaitEvent)
  | counted (backend operation : String) (outcome : Outcome)
  | logged (record : LogRecord)

namespace Event

/-- The log record of an event, if it has one. -/
def record? : Event → Option LogRecord
  | asked _ | answered _ _ => none
  | wire e => e.record?
  | wait e => e.record?
  | counted _ _ _ => none
  | logged r => some r

/-- What an event counts in the metrics. -/
def samples : Event → List Sample
  | wire e => e.samples
  | wait e => e.samples
  | counted backend operation outcome =>
    [⟨.lifecycleOperations, [backend, operation, outcome.text], .add 1.0⟩]
  | _ => []

end Event

/-! ## Flows -/

/-- The flows over one provider. -/
structure Lifecycle (γ : Type) where
  gateway : Gateway γ
  budgets : PollSettings := {}
  /-- What metrics call the provider. -/
  backend : String := "ec2"

/-- A step of a flow. -/
abbrev Flow (γ α : Type) := Run (World Event γ) α

namespace Flow

variable {γ α : Type}

/-- Fails with a refused argument. -/
def check : Except BadArgument α → Flow γ α
  | .ok a => return a
  | .error why => throw (.argument why)

/-- Refuses an argument. -/
def refuse (why : BadArgument) : Flow γ α := throw (.argument why)

/-- Nothing, where a step fails because a resource is missing. -/
def orGone (step : Flow γ α) : Flow γ (Option α) := do
  match ← Run.outcome step with
  | .ok a => return some a
  | .error f => if f.isNotFound then return none else throw f

def note (e : Event) : Flow γ Unit := modify (World.note e)

/-- Logs a message about an event. -/
def log (level : Level) (message : String) (event : LogEvent) (fields : Fields) : Flow γ Unit :=
  note (.logged ⟨level, "blockhub.control.coordinator", message,
    LogRecord.about event .coordinator ++ fields⟩)

end Flow

namespace Lifecycle

open BlockStorage.Flow

variable {γ α : Type}

/-- A call of the gateway, with the request and the answer on record. -/
def leg (c : Lifecycle γ) (r : Request) (now : Float) (remote : γ) :
    Leg Event γ (Except Fault r.Answer) c.gateway.pauses :=
  (((c.gateway.call r now remote).relabel .wire).reporting (.answered r)).after (.asked r)

/-- Makes one call and runs it to its end. -/
def ask (c : Lifecycle γ) (r : Request) : Flow γ r.Answer :=
  ExceptT.mk do
    let w ← get
    (c.leg r w.now w.remote).finish

/-! ## Outcomes -/

def count (c : Lifecycle γ) (operation : String) (outcome : Outcome) : Flow γ Unit :=
  note (.counted c.backend operation outcome)

/-- Counts and logs that a resource is missing. -/
def missing (c : Lifecycle γ) (operation resource : String) : Flow γ Unit := do
  c.count operation .notFound
  log .warning s!"{operation}: resource {resource} not found" .resourceNotFound
    (LogRecord.failing .notFound ++ [("resource_id", .text resource)])

/-- Counts the outcome of a flow that fails, and lets the fault pass. -/
def tracked (c : Lifecycle γ) (operation : String) (flow : Flow γ α) : Flow γ α := do
  match ← Run.outcome flow with
  | .ok a => return a
  | .error f =>
    match f with
    | .pollTimeout _ _ _ => c.count operation .timeout
    | .pollCancelled _ _ => c.count operation .cancelled
    | .aborted => pure ()
    | f => do
      c.count operation .error
      let text := f.message
      log .error s!"{operation} failed: {text}" .operationFailed (LogRecord.failing .permanent)
    throw f

/-! ## Looking resources up -/

/-- The volume with a local id, if the provider has it. -/
def volume? (c : Lifecycle γ) (scope id : String) : Flow γ (Option RemoteVolume) := do
  match ← orGone (c.ask (.describeVolumes scope [id])) with
  | none => return none
  | some answers => return (answers.filterMap fun v => v).find? (·.volumeId == id)

/-- The snapshot with a local id, if the provider has it. -/
def snapshot? (c : Lifecycle γ) (scope id : String) : Flow γ (Option RemoteSnapshot) := do
  match ← orGone (c.ask (.describeSnapshots scope (some [id]) none)) with
  | none => return none
  | some answers => return (answers.filterMap fun s => s).find? (·.snapshotId == id)

/-- Fails because a resource is missing. -/
def gone (scope id : String) : Flow γ α := do
  throw (.notFound (← check (Handle.encode scope id)) none)

def refreshVolume (c : Lifecycle γ) (v : RemoteVolume) : Flow γ RemoteVolume := do
  match ← c.volume? v.scope v.volumeId with
  | some v => return v
  | none => gone v.scope v.volumeId

def refreshSnapshot (c : Lifecycle γ) (s : RemoteSnapshot) : Flow γ RemoteSnapshot := do
  match ← c.snapshot? s.scope s.snapshotId with
  | some s => return s
  | none => gone s.scope s.snapshotId

/-- Looks an attachment up on its volume. An attachment that is not there has the status
`absent`. -/
def refreshAttachment (c : Lifecycle γ) (scope : String) (absent : AttachmentStatus)
    (a : RemoteAttachment) : Flow γ RemoteAttachment := do
  match ← c.volume? scope a.volumeId with
  | none => gone scope a.volumeId
  | some v =>
    return (v.attachment? (some a.device) (some a.instanceId)).getD { a with status := absent }

/-- Waits within the budget of an operation. -/
def waitFor {τ : Type} [Viewed τ] (c : Lifecycle γ) (operation condition : String)
    (ready failed : τ → Bool) (goneIsReady : Bool) (refresh : τ → Flow γ τ) (first : τ) :
    Flow γ (Option τ) :=
  let budget := c.budgets.budgetFor operation
  let wait : Wait τ := {
    condition, ready, failed, goneIsReady
    attempts := budget.maxAttempts
    delay := budget.delay }
  wait.run .wait refresh first

/-- No state counts as failed. -/
def never {τ : Type} (_ : τ) : Bool := false

/-! ## Volumes -/

/-- Where a new volume is to be made: the scope of its zone, and its source, if any. -/
def placement (o : ZonedVolumeOptions) : Except BadArgument (String × Option Handle) := do
  let scope ← Handle.regionOfZone o.zone
  if let some location := o.location then
    if location ≠ scope then throw (.zoneOutsideLocation location o.zone)
  match o.snapshotId with
  | some handle =>
    let source ← Handle.decode handle
    if source.scope ≠ scope then throw (.snapshotOutsideRegion handle scope)
    return (scope, some source)
  | none =>
    if o.sizeGb.isNone then throw .sizeRequired
    return (scope, none)

/-- Asks for the volume; nothing if its source is missing. -/
def orderVolume (c : Lifecycle γ) (o : ZonedVolumeOptions) (scope : String) :
    Option Handle → Flow γ (Option RemoteVolume)
  | some source => do
    match ← c.snapshot? source.scope source.localId with
    | none => return none
    | some _ =>
      return some (← c.ask (.restoreVolume scope source.localId o.zone (.ofReal? o.sizeGb)))
  | none => return some (← c.ask (.createVolume scope (.real (o.sizeGb.getD 0.0)) o.zone))

/-- Waits for an ordered volume and reports it. -/
def settleVolume (c : Lifecycle γ) (name : Datum) (o : ZonedVolumeOptions)
    (created : RemoteVolume) : Flow γ (Option Volume) := do
  let _ ← c.waitFor "create_volume" "volume_available" RemoteVolume.isAvailable
    RemoteVolume.isFailed false c.refreshVolume created
  match ← c.volume? created.scope created.volumeId with
  | none =>
    c.missing "create_volume" (← check (Handle.encode created.scope created.volumeId))
    return none
  | some final =>
    let volume ← check final.toVolume
    c.count "create_volume" .success
    log .info "Volume created" .volumeCreated
      [("volume_id", .text volume.id), ("volume_name", name),
        ("size_gb", .ofReal? volume.sizeGb), ("snapshot_id", .ofText? o.snapshotId)]
    return some volume

def createVolume (c : Lifecycle γ) (name : Datum) (options : Options) : Flow γ (Option Volume) := do
  match options with
  | .zonedVolume o =>
    let (scope, source) ← check (placement o)
    c.tracked "create_volume" do
      match ← c.orderVolume o scope source with
      | none =>
        c.missing "create_volume" (o.snapshotId.getD "")
        return none
      | some created => c.settleVolume name o created
  | .volume _ => refuse .zoneRequired
  | o => refuse (.unsupportedVolumeOptions (Viewed.view o))

def attachVolume (c : Lifecycle γ) (volume node : String) (options : Options) : Flow γ Bool := do
  let device ← ofExcept options.requiredDevice
  let (v, n) ← check (Handle.sameScope volume node)
  c.tracked "attach_volume" do
    let attaching : Flow γ Unit := do
      let attachment ← c.ask (.attachVolume v.scope v.localId n.localId device)
      let _ ← c.waitFor "attach_volume" "attachment_attached" RemoteAttachment.isAttached never
        false (c.refreshAttachment v.scope .attaching) attachment
    match ← Run.outcome attaching with
    | .error (.notFound resource _) =>
      c.missing "attach_volume" (if resource.isEmpty then volume else resource)
      return false
    | .error f => throw f
    | .ok _ =>
      c.count "attach_volume" .success
      log .info "Volume attached" .volumeAttached
        [("volume_id", .text volume), ("node_id", .text node), ("device", .text device)]
      return true

/-- Which attachment to detach, and whether by force. -/
structure DetachTarget where
  device : Option String
  nodeId : Option String
  force : Bool

/-- What detach options say; none at all mean any attachment. -/
def detachTarget : Options → Except BadArgument DetachTarget
  | .other .null => .ok ⟨none, none, false⟩
  | .forcedDetach o => .ok ⟨o.device, o.nodeId, o.force⟩
  | .detach o => .ok ⟨o.device, o.nodeId, false⟩
  | o => .error (.unsupportedDetachOptions (Viewed.view o))

/-- The volume, and the instance that the filter names. -/
def detachScope (volume : String) (nodeId : Option String) :
    Except BadArgument (Handle × Option String) := do
  match nodeId with
  | none => return (← Handle.decode volume, none)
  | some node =>
    let (v, n) ← Handle.sameScope volume node
    return (v, some n.localId)

/-- Detaches an attachment that was found. -/
def detachFound (c : Lifecycle γ) (volume : String) (v : Handle) (target : DetachTarget)
    (found : RemoteAttachment) : Flow γ Bool := do
  let detaching ← orGone (c.ask (.detachVolume v.scope v.localId target.force
    (some found.device) (some found.instanceId)))
  match detaching with
  | none =>
    c.missing "detach_volume" volume
    return false
  | some detaching =>
    let _ ← c.waitFor "detach_volume" "attachment_detached" RemoteAttachment.isDetached never true
      (c.refreshAttachment v.scope .detached) detaching
    c.count "detach_volume" .success
    let node ← check (Handle.encode v.scope found.instanceId)
    log .info "Volume detached" .volumeDetached
      [("volume_id", .text volume), ("node_id", .text node),
        ("device", .text found.device), ("force", .bool target.force)]
    return true

def detachVolume (c : Lifecycle γ) (volume : String) (options : Options) : Flow γ Bool := do
  let target ← check (detachTarget options)
  let (v, instanceId) ← check (detachScope volume target.nodeId)
  c.tracked "detach_volume" do
    match ← c.volume? v.scope v.localId with
    | none =>
      c.missing "detach_volume" volume
      return false
    | some remote =>
      match remote.attachment? target.device instanceId with
      | some found => c.detachFound volume v target found
      | none =>
        c.count "detach_volume" .notFound
        log .warning "No matching attachment to detach" .attachmentNotFound
          [("volume_id", .text volume), ("device", .ofText? target.device),
            ("node_id", .ofText? target.nodeId), ("attachments", .int remote.attachments.length)]
        return false

def removeVolume (c : Lifecycle γ) (volume : String) : Flow γ Bool := do
  let v ← check (Handle.decode volume)
  c.tracked "remove_volume" do
    match ← c.volume? v.scope v.localId with
    | none =>
      c.missing "remove_volume" volume
      return false
    | some remote =>
      if (← orGone (c.ask (.deleteVolume v.scope v.localId))).isSome then
        let _ ← c.waitFor "remove_volume" "volume_deleted" RemoteVolume.isDeleted never true
          c.refreshVolume remote
      c.count "remove_volume" .success
      log .info "Volume removed" .volumeRemoved [("volume_id", .text volume)]
      return true

def getVolume (c : Lifecycle γ) (volume : String) : Flow γ (Option Volume) := do
  let v ← check (Handle.decode volume)
  match ← c.volume? v.scope v.localId with
  | none => return none
  | some remote => return some (← check remote.toVolume)

/-- The volumes of an answer, without its gaps. -/
def volumesOf (answers : List (Option RemoteVolume)) : Except BadArgument (List Volume) :=
  (answers.filterMap fun v => v).mapM RemoteVolume.toVolume

/-- The snapshots of an answer, without its gaps. -/
def snapshotsOf (answers : List (Option RemoteSnapshot)) : Except BadArgument (List Snapshot) :=
  (answers.filterMap fun s => s).mapM (·.toSnapshot)

/-- Lists one location and converts what it holds. -/
def legIn {β : Type} (c : Lifecycle γ) (r : Request) (convert : r.Answer → Except BadArgument β)
    (location : String) (now : Float) (remote : γ) :
    Leg Event γ (Except Fault β) c.gateway.pauses :=
  if location.isEmpty then .done ⟨remote, [], false⟩ (.error (.argument .emptyLocation))
  else (c.leg r now remote).map fun
    | .error f => .error f
    | .ok answer => match convert answer with
      | .ok b => .ok b
      | .error why => .error (.argument why)

/-- The volumes of one location, as a call. -/
def volumesIn (c : Lifecycle γ) (location : String) :
    Float → γ → Leg Event γ (Except Fault (List Volume)) c.gateway.pauses :=
  c.legIn (.describeVolumes location []) volumesOf location

/-- The snapshots of one location, as a call. -/
def snapshotsIn (c : Lifecycle γ) (location : String) :
    Float → γ → Leg Event γ (Except Fault (List Snapshot)) c.gateway.pauses :=
  c.legIn (.describeSnapshots location none none) snapshotsOf location

/-- Runs a call of one location. -/
def listIn {pauses : Nat}
    (call : String → Float → γ → Leg Event γ (Except Fault (List α)) pauses) (location : String) :
    Flow γ (List α) :=
  ExceptT.mk do
    let w ← get
    (call location w.now w.remote).finish

/-- Runs the calls of all locations side by side. -/
def listAll {pauses : Nat} [BEq α] (c : Lifecycle γ)
    (call : String → Float → γ → Leg Event γ (Except Fault (List α)) pauses) :
    Flow γ (List α) := do
  let scopes ← c.ask .listScopes
  let lists ← (ExceptT.mk (World.sideBySide (scopes.map fun s => call s.plain)) : Flow γ _)
  return distinct lists.flatten

/-- The volumes that a node holds, each with the device that the node holds it by. Attachments on
their way out do not count. -/
def heldVolumes (node : String) (answers : List (Option RemoteVolume)) :
    Except BadArgument (List Volume) :=
  (answers.filterMap fun v => do
    let v ← v
    let a ← v.heldBy? node
    return (v, a)).mapM fun (v, a) => do
      return { ← v.toVolume with device := some a.device }

def listVolumesOf (c : Lifecycle γ) (node : String) : Flow γ (List Volume) := do
  let n ← check (Handle.decode node)
  let answers ← c.ask (.describeVolumes n.scope [])
  return distinct (← check (heldVolumes n.localId answers))

/-! ## Snapshots -/

def createSnapshot (c : Lifecycle γ) (volume : String) (options : Options) :
    Flow γ (Option Snapshot) := do
  let v ← check (Handle.decode volume)
  c.tracked "create_snapshot" do
    match ← c.volume? v.scope v.localId with
    | none =>
      c.missing "create_snapshot" volume
      return none
    | some source =>
      let name ← if options.isGiven then ofExcept options.name? else pure none
      match ← orGone (c.ask (.createSnapshot v.scope v.localId (name.getD ""))) with
      | none =>
        c.missing "create_snapshot" volume
        return none
      | some pending =>
        let completed ← c.waitFor "create_snapshot" "snapshot_completed" RemoteSnapshot.isCompleted
          RemoteSnapshot.isFailed false c.refreshSnapshot pending
        let final ← c.snapshot? pending.scope pending.snapshotId
        let remote := (final.orElse fun _ => completed).getD pending
        let snapshot ← check (remote.toSnapshot (some source.sizeGb))
        c.count "create_snapshot" .success
        log .info "Snapshot created" .snapshotCreated
          [("snapshot_id", .text snapshot.id), ("volume_id", .text volume)]
        return some snapshot

def deleteSnapshot (c : Lifecycle γ) (snapshot : String) : Flow γ Bool := do
  let s ← check (Handle.decode snapshot)
  c.tracked "delete_snapshot" do
    match ← c.snapshot? s.scope s.localId with
    | none =>
      c.missing "delete_snapshot" snapshot
      return false
    | some _ =>
      let _ ← orGone (c.ask (.deleteSnapshot s.scope s.localId))
      let deleted := (← c.snapshot? s.scope s.localId).isNone
      c.count "delete_snapshot" (if deleted then .success else .error)
      log .info (if deleted then "Snapshot deleted" else "Snapshot still present after delete")
        .snapshotDeleted [("snapshot_id", .text snapshot), ("confirmed", .bool deleted)]
      return deleted

def getSnapshot (c : Lifecycle γ) (snapshot : String) : Flow γ (Option Snapshot) := do
  let s ← check (Handle.decode snapshot)
  match ← c.snapshot? s.scope s.localId with
  | none => return none
  | some remote => return some (← check remote.toSnapshot)

def listSnapshotsOf (c : Lifecycle γ) (volume : String) : Flow γ (List Snapshot) := do
  let v ← check (Handle.decode volume)
  match ← c.volume? v.scope v.localId with
  | none => return []
  | some _ =>
    let answers ← c.ask (.describeSnapshots v.scope none (some v.localId))
    return distinct (← check (snapshotsOf answers))

/-! ## All operations -/

/-- The flow of an operation. -/
def perform (c : Lifecycle γ) : (op : Operation) → Flow γ op.Answer
  | .createVolume name options => c.createVolume name options
  | .attachVolume volume node options => c.attachVolume volume node options
  | .detachVolume volume options => c.detachVolume volume options
  | .removeVolume volume => c.removeVolume volume
  | .getVolume volume => c.getVolume volume
  | .listVolumes => c.listAll c.volumesIn
  | .listVolumesIn location => do return distinct (← listIn c.volumesIn location)
  | .listVolumesOf node => c.listVolumesOf node
  | .createSnapshot volume options => c.createSnapshot volume options
  | .deleteSnapshot snapshot => c.deleteSnapshot snapshot
  | .getSnapshot snapshot => c.getSnapshot snapshot
  | .listSnapshots => c.listAll c.snapshotsIn
  | .listSnapshotsIn location => do return distinct (← listIn c.snapshotsIn location)
  | .listSnapshotsOf volume => c.listSnapshotsOf volume

end Lifecycle

end BlockStorage
