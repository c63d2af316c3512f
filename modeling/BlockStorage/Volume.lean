import BlockStorage.Handle

/-!
# Volumes and snapshots

The records that callers get. A volume's `id` is a handle; its `device` is set
only while the volume is attached. A snapshot is a copy of exactly one volume.
-/

namespace BlockStorage

/-- How a volume is provisioned. -/
inductive VolumeType
  | localDisk | san | nas | pooled
  deriving DecidableEq, Repr

instance : Vocabulary VolumeType where
  title := "VolumeType"
  all := [.localDisk, .san, .nas, .pooled]
  value
    | .localDisk => "LOCAL"
    | .san => "SAN"
    | .nas => "NAS"
    | .pooled => "POOLED"

structure Volume where
  id : String
  sizeGb : Option Float := none
  location : Option String := none
  type : VolumeType := .localDisk
  durable : Bool := false
  bootDevice : Bool := false
  device : Option String := none
  name : Option String := none
  deriving BEq

namespace Volume

def isAttached (v : Volume) : Bool := v.device.isSome

instance : Viewed Volume where
  view v := .named "Volume" [("id", .text v.id), ("size_gb", .real? v.sizeGb),
    ("location_id", .text? v.location), ("type", .ofWord v.type), ("durable", .bool v.durable),
    ("boot_device", .bool v.bootDevice), ("device", .text? v.device), ("name", .text? v.name)]

def check : Reader Volume := Check.record fun fs =>
  Volume.mk <$> Check.field fs "id" Check.text
    <*> Check.fieldOr fs "size_gb" none (Check.nullable Check.real)
    <*> Check.fieldOr fs "location_id" none (Check.nullable Check.text)
    <*> Check.fieldOr fs "type" .localDisk Check.word
    <*> Check.fieldOr fs "durable" false Check.bool
    <*> Check.fieldOr fs "boot_device" false Check.bool
    <*> Check.fieldOr fs "device" none (Check.nullable Check.text)
    <*> Check.fieldOr fs "name" none (Check.nullable Check.text)

end Volume

structure Snapshot where
  id : String
  sizeGb : Option Float := none
  name : Option String := none
  location : Option String := none
  volumeId : Option String := none
  created : Option Timestamp := none
  deriving BEq

namespace Snapshot

instance : Viewed Snapshot where
  view s := .named "Snapshot" [("id", .text s.id), ("size_gb", .real? s.sizeGb),
    ("name", .text? s.name), ("location_id", .text? s.location), ("volume_id", .text? s.volumeId),
    ("created", .moment? s.created)]

def check : Reader Snapshot := Check.record fun fs =>
  Snapshot.mk <$> Check.field fs "id" Check.text
    <*> Check.fieldOr fs "size_gb" none (Check.nullable Check.real)
    <*> Check.fieldOr fs "name" none (Check.nullable Check.text)
    <*> Check.fieldOr fs "location_id" none (Check.nullable Check.text)
    <*> Check.fieldOr fs "volume_id" none (Check.nullable Check.text)
    <*> Check.fieldOr fs "created" none (Check.nullable Check.timestamp)

end Snapshot

/-- Keeps the first of equal records. -/
def distinct {α : Type} [BEq α] (as : List α) : List α :=
  as.foldl (fun seen a => if seen.contains a then seen else seen ++ [a]) []

end BlockStorage
