import BlockStorage.Datum.Order
import BlockStorage.Timestamp.Iso
import BlockStorage.Volume.Remote

/-!
# Responses of EC2

How the provider's records become remote records. A response is read in the
order in which its fields are needed, so of two faults the earlier one counts;
the texts are checked last, all together.

* `Ec2.volume`, `Ec2.attachment`, `Ec2.snapshot`: one record each.
* `Ec2.pagesOf`: all records of a listing, page by page.
-/

namespace BlockStorage.Ec2

/-- Checks data that were taken out of a response, as the fields of a record. -/
def checked {α : Type} (r : Reader α) (fields : Fields) : Except Fault α :=
  (r (.record fields)).orFault

/-- An attachment. Without a state it counts as attaching. -/
def attachment (d : Datum) : Except Fault RemoteAttachment := do
  let volumeId ← d.key "VolumeId"
  let instanceId ← d.key "InstanceId"
  let device ← d.keyOr "Device" (.text "")
  let status : AttachmentStatus ← (← d.keyOr "State" (.text "attaching")).asWord
  checked RemoteAttachment.check [("volume_id", volumeId), ("instance_id", instanceId),
    ("device", device), ("status", .text (Vocabulary.value status))]

/-- A time that a provider gives: a timestamp in any of its forms, or what a check makes of it. -/
def givenTime (d : Datum) : Option Timestamp :=
  match d with
  | .text s => Timestamp.ofIso? s
  | _ => none

/-- A volume of a scope. Without a state it counts as being created. -/
def volume (scope : String) (d : Datum) : Except Fault RemoteVolume := do
  let created ← d.keyOr "CreateTime" .null
  let volumeId ← d.key "VolumeId"
  let sizeGb ← (← d.keyOr "Size" (.int 0)).asReal
  let zone ← d.keyOr "AvailabilityZone" (.text "")
  let status : VolumeStatus ← (← d.keyOr "State" (.text "creating")).asWord
  let attachments ← (← (← d.keyOr "Attachments" (.list [])).each).mapM attachment
  let snapshotId ← d.keyOr "SnapshotId" .null
  let time := givenTime created
  let v ← checked RemoteVolume.check [("scope", .text scope), ("volume_id", volumeId),
    ("size_gb", .real sizeGb), ("availability_zone", zone),
    ("status", .text (Vocabulary.value status)),
    ("attachments", .list (attachments.map datumOf)),
    ("snapshot_id", if snapshotId.isTruthy then snapshotId else .null),
    ("created_at", if time.isSome then .null else created)]
  return { v with created := time.orElse fun _ => v.created }

/-- The state of a snapshot; whatever is neither completed nor failed is still in progress. -/
def snapshotStatus : Datum → Except Fault SnapshotStatus
  | .text "completed" => .ok .completed
  | .text "error" => .ok .error
  | .list _ => .error (.misuse (.unhashable "list"))
  | .record _ => .error (.misuse (.unhashable "dict"))
  | _ => .ok .pending

/-- A snapshot of a scope. -/
def snapshot (scope : String) (d : Datum) : Except Fault RemoteSnapshot := do
  let snapshotId ← d.key "SnapshotId"
  let volumeId ← d.keyOr "VolumeId" (.text "")
  let sizeGb ← (← d.keyOr "VolumeSize" (.int 0)).asReal
  let status ← snapshotStatus (← d.keyOr "State" (.text "pending"))
  let description ← d.keyOr "Description" (.text "")
  let startTime ← d.keyOr "StartTime" .null
  let time := givenTime startTime
  let s ← checked RemoteSnapshot.check [("scope", .text scope), ("snapshot_id", snapshotId),
    ("volume_id", volumeId), ("size_gb", .real sizeGb),
    ("status", .text (Vocabulary.value status)), ("description", description),
    ("start_time", if time.isSome then .null else startTime)]
  return { s with startTime := time.orElse fun _ => s.startTime }

/-- All records of a listing; a page that fails ends it. -/
def pagesOf {α : Type} (key : String) (record : Datum → Except Fault α) :
    List (Except Fault Datum) → Except Fault (List α)
  | [] => .ok []
  | page :: pages => do
    let ds ← (← (← page).keyOr key (.list [])).each
    let records ← ds.mapM record
    return records ++ (← pagesOf key record pages)

/-- The names of the regions in order, as the provider gives them. -/
def regions (d : Datum) : Except Fault (List Datum) := do
  let ds ← (← d.keyOr "Regions" (.list [])).each
  Datum.ordered (← ds.mapM (·.key "RegionName"))

end BlockStorage.Ec2
