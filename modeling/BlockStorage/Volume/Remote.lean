import BlockStorage.Volume

/-!
# Remote records

The state of volumes, attachments and snapshots as a provider reports it, scope
by scope, and how it becomes the records that callers get.

* `RemoteVolume.attachment?`: the first attachment that matches two filters.
* `RemoteVolume.toVolume`, `RemoteSnapshot.toSnapshot`: the caller's records.
* The predicates that waits aim for: `isAvailable`, `isDeleted`, `isFailed`, ….
-/

namespace BlockStorage

inductive VolumeStatus
  | creating | available | inUse | deleting | deleted | error
  deriving DecidableEq, Repr

instance : Vocabulary VolumeStatus where
  title := "RemoteVolumeStatus"
  all := [.creating, .available, .inUse, .deleting, .deleted, .error]
  value
    | .creating => "creating"
    | .available => "available"
    | .inUse => "in-use"
    | .deleting => "deleting"
    | .deleted => "deleted"
    | .error => "error"

inductive AttachmentStatus
  | attaching | attached | detaching | detached | busy
  deriving DecidableEq, Repr

instance : Vocabulary AttachmentStatus where
  title := "AttachmentStatus"
  all := [.attaching, .attached, .detaching, .detached, .busy]
  value
    | .attaching => "attaching"
    | .attached => "attached"
    | .detaching => "detaching"
    | .detached => "detached"
    | .busy => "busy"

/-- Whether the node holds the volume in this state. -/
def AttachmentStatus.isHeld : AttachmentStatus → Bool
  | attaching | attached | busy => true
  | detaching | detached => false

inductive SnapshotStatus
  | pending | completed | error
  deriving DecidableEq, Repr

instance : Vocabulary SnapshotStatus where
  title := "SnapshotStatus"
  all := [.pending, .completed, .error]
  value
    | .pending => "pending"
    | .completed => "completed"
    | .error => "error"

/-! ## Attachments -/

/-- The attachment of one volume to one instance. -/
structure RemoteAttachment where
  volumeId : String
  instanceId : String
  device : String
  status : AttachmentStatus
  deriving DecidableEq

namespace RemoteAttachment

instance : Viewed RemoteAttachment where
  view a := .named "RemoteAttachment" [("volume_id", .text a.volumeId),
    ("instance_id", .text a.instanceId), ("device", .text a.device), ("status", .ofWord a.status)]

def check : Reader RemoteAttachment := Check.record fun fs =>
  RemoteAttachment.mk <$> Check.field fs "volume_id" Check.text
    <*> Check.field fs "instance_id" Check.text
    <*> Check.field fs "device" Check.text
    <*> Check.field fs "status" Check.word

/-- Whether an attachment passes both filters; an absent filter passes everything. -/
def passes (device instanceId : Option String) (a : RemoteAttachment) : Bool :=
  device.all (· == a.device) && instanceId.all (· == a.instanceId)

def isAttached (a : RemoteAttachment) : Bool := a.status = .attached

def isDetached (a : RemoteAttachment) : Bool := a.status = .detached

end RemoteAttachment

/-! ## Volumes -/

structure RemoteVolume where
  scope : String
  volumeId : String
  sizeGb : Float
  zone : String
  status : VolumeStatus
  attachments : List RemoteAttachment := []
  snapshotId : Option String := none
  created : Option Timestamp := none
  deriving BEq

namespace RemoteVolume

instance : Viewed RemoteVolume where
  view v := .named "RemoteVolume" [("scope", .text v.scope), ("volume_id", .text v.volumeId),
    ("size_gb", .real v.sizeGb), ("availability_zone", .text v.zone), ("status", .ofWord v.status),
    ("attachments", .tuple (v.attachments.map Viewed.view)), ("snapshot_id", .text? v.snapshotId),
    ("created_at", .moment? v.created)]

def check : Reader RemoteVolume := Check.record fun fs =>
  RemoteVolume.mk <$> Check.field fs "scope" Check.text
    <*> Check.field fs "volume_id" Check.text
    <*> Check.field fs "size_gb" Check.real
    <*> Check.field fs "availability_zone" Check.text
    <*> Check.field fs "status" Check.word
    <*> Check.fieldOr fs "attachments" [] (Check.tuple RemoteAttachment.check)
    <*> Check.fieldOr fs "snapshot_id" none (Check.nullable Check.text)
    <*> Check.fieldOr fs "created_at" none (Check.nullable Check.timestamp)

/-- The first attachment that passes both filters. -/
def attachment? (v : RemoteVolume) (device instanceId : Option String) : Option RemoteAttachment :=
  v.attachments.find? (·.passes device instanceId)

/-- The attachment by which an instance holds the volume. -/
def heldBy? (v : RemoteVolume) (instanceId : String) : Option RemoteAttachment :=
  v.attachments.find? fun a => a.instanceId == instanceId && a.status.isHeld

def isAvailable (v : RemoteVolume) : Bool := v.status = .available

def isDeleted (v : RemoteVolume) : Bool := v.status = .deleted

def isFailed (v : RemoteVolume) : Bool := v.status = .error

/-- The volume that callers see. Only the first attachment shows in `device`. -/
def toVolume (v : RemoteVolume) : Except BadArgument Volume := do
  let id ← Handle.encode v.scope v.volumeId
  return {
    id
    sizeGb := some v.sizeGb
    location := some v.scope
    type := .san
    durable := true
    device := v.attachments.head?.map (·.device) }

end RemoteVolume

/-! ## Snapshots -/

structure RemoteSnapshot where
  scope : String
  snapshotId : String
  volumeId : String
  sizeGb : Float
  status : SnapshotStatus
  description : String := ""
  startTime : Option Timestamp := none
  deriving BEq

namespace RemoteSnapshot

instance : Viewed RemoteSnapshot where
  view s := .named "RemoteSnapshot" [("scope", .text s.scope), ("snapshot_id", .text s.snapshotId),
    ("volume_id", .text s.volumeId), ("size_gb", .real s.sizeGb), ("status", .ofWord s.status),
    ("description", .text s.description), ("start_time", .moment? s.startTime)]

def check : Reader RemoteSnapshot := Check.record fun fs =>
  RemoteSnapshot.mk <$> Check.field fs "scope" Check.text
    <*> Check.field fs "snapshot_id" Check.text
    <*> Check.field fs "volume_id" Check.text
    <*> Check.field fs "size_gb" Check.real
    <*> Check.field fs "status" Check.word
    <*> Check.fieldOr fs "description" "" Check.text
    <*> Check.fieldOr fs "start_time" none (Check.nullable Check.timestamp)

def isCompleted (s : RemoteSnapshot) : Bool := s.status = .completed

def isFailed (s : RemoteSnapshot) : Bool := s.status = .error

/-- The snapshot that callers see, with the given size or the reported one. An empty description
is no name. -/
def toSnapshot (s : RemoteSnapshot) (sizeGb : Option Float := none) :
    Except BadArgument Snapshot := do
  let id ← Handle.encode s.scope s.snapshotId
  let volumeId ← Handle.encode s.scope s.volumeId
  return {
    id
    sizeGb := some (sizeGb.getD s.sizeGb)
    name := if s.description.isEmpty then none else some s.description
    location := some s.scope
    volumeId := some volumeId
    created := s.startTime }

end RemoteSnapshot

end BlockStorage
