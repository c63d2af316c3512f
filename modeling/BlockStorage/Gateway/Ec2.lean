import BlockStorage.Gateway
import BlockStorage.Gateway.Ec2.Response
import BlockStorage.Retry

/-!
# The EC2 gateway

Volumes and snapshots of EC2. Every call opens a client for its region and goes,
with retries, through the gateway's own breaker. Requests that may be sent again
are repeated after every failure that may pass; the others only after a failure
that certainly left the provider untouched.

A missing resource becomes `notFound`, any other failure of the provider or the
transport `remoteFailure`. Faults of neither kind pass unchanged.

* `Ec2.Plan`: what one request means to the provider; `Ec2.plan` makes it.
* `Ec2.attempt`: one attempt at a plan.
* `Ec2.conclude`: what the outcome of a call means to the caller.
* `Ec2.gateway`: the gateway over a client.
-/

namespace BlockStorage

structure Ec2Settings where
  defaultRegion : String := "us-east-1"
  /-- The regions to work in; the provider is asked if there are none. -/
  regions : List String := []
  endpoint : Option String := none
  maxRetries : Nat := 3
  retryBaseDelay : Float := 1.0
  retryMaxDelay : Float := 30.0

namespace Ec2

variable {χ α : Type}

/-- The breaker of a gateway that was given none. -/
def defaultBreaker : Breaker := { name := "ec2", classify := some Fault.classify }

/-! ## What a request means -/

/-- What one request means to the provider. -/
structure Plan (α : Type) where
  /-- The name of the call in logs and metrics. -/
  call : String
  region : String
  /-- The local ids that a missing resource is reported by. -/
  resource : String := ""
  /-- What the provider calls the operation. -/
  operation : String := call
  /-- Made anew for every attempt, which fails if they cannot be made. -/
  arguments : Except Fault Fields
  /-- Reads the reply. The outer failure is one of the attempt, the inner one only of the answer. -/
  read : Reply → Except Fault (Except Fault α)

/-- The response of a reply that is not a listing. -/
def single : Reply → Except Fault Datum
  | .fault f => .error f
  | .ok d => .ok d
  | .pages _ => .error (.alien .runtime "unexpected pages")

/-- The records of a listing. -/
def listing (key : String) (record : Datum → Except Fault α) : Reply → Except Fault (List α)
  | .fault f => .error f
  | .ok d => pagesOf key record [.ok d]
  | .pages ps => pagesOf key record ps

/-- Filters and ids of a snapshot listing. Without ids only the account's own snapshots are
listed. -/
def snapshotArguments (ids : List String) (volumeId : Option String) : Fields :=
  let which : Fields :=
    if ids.isEmpty then [("OwnerIds", .list [.text "self"])]
    else [("SnapshotIds", .list (ids.map .text))]
  match volumeId with
  | none => which
  | some id => which ++ [("Filters", .list
      [.record [("Name", .text "volume-id"), ("Values", .list [.text id])]])]

/-- Arguments of a detach call; absent filters are left out. -/
def detachArguments (volumeId : String) (force : Bool) (device nodeId : Option String) : Fields :=
  [("VolumeId", .text volumeId), ("Force", .bool force)]
    ++ (device.map fun d => ("Device", Datum.text d)).toList
    ++ (nodeId.map fun n => ("InstanceId", Datum.text n)).toList

/-- Arguments for an empty volume: a size is cut off to whole gigabytes. -/
def createArguments (zone : String) (sizeGb : Datum) : Except Fault Fields :=
  sizeGb.asWhole.map fun size => [("AvailabilityZone", .text zone), ("Size", .int size)]

/-- Arguments for a volume from a snapshot; a size of zero counts as none. -/
def restoreArguments (zone snapshotId : String) (sizeGb : Datum) : Except Fault Fields :=
  let fields : Fields := [("AvailabilityZone", .text zone), ("SnapshotId", .text snapshotId)]
  if sizeGb.isTruthy then sizeGb.asWhole.map fun n => fields ++ [("Size", .int n)] else .ok fields

/-- The plan of a request. Only the arguments for a volume from a snapshot are made beforehand. -/
def plan (settings : Ec2Settings) : (r : Request) → Except Fault (Plan r.Answer)
  | .listScopes => .ok {
      call := "describe_regions", region := settings.defaultRegion, arguments := .ok []
      read := fun reply => do return .ok (← regions (← single reply)) }
  | .describeVolumes scope ids => .ok {
      call := "describe_volumes", region := scope, resource := ",".intercalate ids
      arguments := .ok (if ids.isEmpty then [] else [("VolumeIds", .list (ids.map .text))])
      read := fun reply => do return .ok ((← listing "Volumes" (volume scope) reply).map some) }
  | .createVolume scope sizeGb zone => .ok {
      call := "create_volume", region := scope, arguments := createArguments zone sizeGb
      read := fun reply => return volume scope (← single reply) }
  | .restoreVolume scope snapshotId zone sizeGb => do
      let arguments ← restoreArguments zone snapshotId sizeGb
      return {
        call := "create_volume_from_snapshot", region := scope, resource := snapshotId
        operation := "create_volume", arguments := .ok arguments
        read := fun reply => return volume scope (← single reply) }
  | .deleteVolume scope volumeId => .ok {
      call := "delete_volume", region := scope, resource := volumeId
      arguments := .ok [("VolumeId", .text volumeId)]
      read := fun reply => do let _ ← single reply; return .ok () }
  | .attachVolume scope volumeId nodeId device => .ok {
      call := "attach_volume", region := scope, resource := volumeId
      arguments := .ok
        [("VolumeId", .text volumeId), ("InstanceId", .text nodeId), ("Device", .text device)]
      read := fun reply => return attachment (← single reply) }
  | .detachVolume scope volumeId force device nodeId => .ok {
      call := "detach_volume", region := scope, resource := volumeId
      arguments := .ok (detachArguments volumeId force device nodeId)
      read := fun reply => return attachment (← single reply) }
  | .describeSnapshots scope ids volumeId => .ok {
      call := "describe_snapshots", region := scope, resource := ",".intercalate (ids.getD [])
      arguments := .ok (snapshotArguments (ids.getD []) volumeId)
      read := fun reply => do return .ok ((← listing "Snapshots" (snapshot scope) reply).map some) }
  | .createSnapshot scope volumeId description => .ok {
      call := "create_snapshot", region := scope, resource := volumeId
      arguments := .ok [("VolumeId", .text volumeId), ("Description", .text description)]
      read := fun reply => return snapshot scope (← single reply) }
  | .deleteSnapshot scope snapshotId => .ok {
      call := "delete_snapshot", region := scope, resource := snapshotId
      arguments := .ok [("SnapshotId", .text snapshotId)]
      read := fun reply => do let _ ← single reply; return .ok () }

/-! ## Attempts -/

/-- Sends a request and takes its reply. -/
def exchange (client : Client χ) (region operation : String) (arguments : Fields) :
    Run (World WireEvent (Wire χ)) Reply := do
  let w ← get
  let (reply, state) := client.send region operation arguments w.remote.client
  set { w with
    remote := { w.remote with client := state }
    journal := w.journal ++ [WireEvent.sent region operation arguments reply] }
  return reply

/-- One attempt: a client for the region, then the request. The result is the answer if nothing
more goes wrong. -/
def attempt (settings : Ec2Settings) (client : Client χ) (p : Plan α) :
    Run (World WireEvent (Wire χ)) (Except Fault α) := do
  modify (World.note (.opened p.region settings.endpoint))
  match p.arguments with
  | .error f => throw f
  | .ok arguments =>
    match p.read (← exchange client p.region p.operation arguments) with
    | .error f => throw f
    | .ok answer => return answer

/-! ## What a failure means -/

/-- What a failure of the provider or the transport means to the caller; `none` for other
faults. -/
def meaning? (call region resource : String) : Fault → Option Fault
  | .rejected r =>
    let code := r.codeOrEmpty
    if Rejection.isNotFoundCode code then
      some (.notFound (if resource.isEmpty then region else region ++ "/" ++ resource)
        (some s!"{call}: {code} in {region}"))
    else some (.remoteFailure r.message code)
  | .transport t => some (.remoteFailure t.message t.name)
  | _ => none

/-- Reports the end of a call that began at `start`, and answers. -/
def conclude (p : Plan α) (start : Float) (outcome : Except Fault (Except Fault α)) :
    StateM (World WireEvent (Wire χ)) (Except Fault α) := do
  let took := modify fun w => w.note (.took p.call (w.now - start))
  match outcome with
  | .ok answer => do
    took
    return answer
  | .error f =>
    match meaning? p.call p.region p.resource f with
    | some meant => do
      modify (World.note (.failed p.call p.region f))
      took
      return .error meant
    | none => do
      took
      return .error f

/-! ## The gateway -/

/-- How a request is retried. -/
def policy (settings : Ec2Settings) (r : Request) : RetryPolicy where
  maxRetries := settings.maxRetries
  baseDelay := .real settings.retryBaseDelay
  maxDelay := .real settings.retryMaxDelay
  circuit := .own
  judge := if r.isRepeatable then Fault.classify else Fault.classifyMutation

/-- Answers without asking the provider. -/
def atOnce {pauses : Nat} (wire : Wire χ) (answer : Except Fault α) :
    Leg WireEvent (Wire χ) (Except Fault α) pauses :=
  .done ⟨wire, [], false⟩ answer

/-- The request, planned and carried out. -/
def request (settings : Ec2Settings) (client : Client χ) (r : Request) (now : Float)
    (wire : Wire χ) : Leg WireEvent (Wire χ) (Except Fault r.Answer) settings.maxRetries :=
  match plan settings r with
  | .ok p => (policy settings r).run (attempt settings client p) (conclude p now) now wire
  | .error f => atOnce wire (.error f)

/-- The calls of EC2 over a client. Regions that are configured are not asked for. -/
def gateway (settings : Ec2Settings) (client : Client χ) : Gateway (Wire χ) where
  pauses := settings.maxRetries
  call
    | .listScopes, now, wire =>
      if settings.regions.isEmpty then request settings client .listScopes now wire
      else atOnce wire (.ok (settings.regions.map .text))
    | r, now, wire => request settings client r now wire

end Ec2

end BlockStorage
