import BlockStorage.Volume.Remote

/-!
# Options

What callers say about an operation. Each kind of options is a record of its
own; `Options` is whatever a caller handed over, which need not be of the kind
that the operation wants.

* `Options.check`: reads the options of a named kind.
* `Options.checkCreate`, `Options.checkDetach`: the two unions that are told
  apart by their `kind`.
-/

namespace BlockStorage

/-- Create options that every backend understands. -/
structure VolumeOptions where
  sizeGb : Option Float := none
  location : Option String := none
  deriving BEq

/-- Create options with a zone. With a snapshot the volume is restored from it, and a size only
overrides the snapshot's. -/
structure ZonedVolumeOptions where
  sizeGb : Option Float := none
  location : Option String := none
  zone : String
  snapshotId : Option String := none
  deriving BEq

structure AttachOptions where
  device : String
  deriving DecidableEq

/-- Which attachment to detach; an absent filter means any. -/
structure PlainDetachOptions where
  device : Option String := none
  nodeId : Option String := none
  deriving DecidableEq

/-- Detach options that can skip the unmount on the instance's side. -/
structure ForcedDetachOptions where
  device : Option String := none
  nodeId : Option String := none
  force : Bool := false
  deriving DecidableEq

structure SnapshotOptions where
  name : Option String := none
  deriving DecidableEq

namespace Check

/-- A size in gigabytes is more than zero, where one is given. -/
def size : Reader (Option Float) := nullable (positive real)

def text? : Reader (Option String) := nullable text

/-- The field `kind`, which may be left out, is the given word. -/
def kind (fs : Fields) (value : String) : Checked Unit := fieldOr fs "kind" () (literal value)

end Check

/-! ## Reading -/

def VolumeOptions.check : Reader VolumeOptions := Check.record fun fs =>
  (fun _ => VolumeOptions.mk) <$> Check.kind fs "generic"
    <*> Check.fieldOr fs "size_gb" none Check.size
    <*> Check.fieldOr fs "location_id" none Check.text?

def ZonedVolumeOptions.check : Reader ZonedVolumeOptions := Check.record fun fs =>
  (fun _ => ZonedVolumeOptions.mk) <$> Check.kind fs "ec2"
    <*> Check.fieldOr fs "size_gb" none Check.size
    <*> Check.fieldOr fs "location_id" none Check.text?
    <*> Check.field fs "availability_zone" Check.text
    <*> Check.fieldOr fs "snapshot_id" none Check.text?

def AttachOptions.check : Reader AttachOptions := Check.record fun fs =>
  AttachOptions.mk <$> Check.field fs "device" Check.text

def PlainDetachOptions.check : Reader PlainDetachOptions := Check.record fun fs =>
  (fun _ => PlainDetachOptions.mk) <$> Check.kind fs "generic"
    <*> Check.fieldOr fs "device" none Check.text?
    <*> Check.fieldOr fs "node_id" none Check.text?

def ForcedDetachOptions.check : Reader ForcedDetachOptions := Check.record fun fs =>
  (fun _ => ForcedDetachOptions.mk) <$> Check.kind fs "ec2"
    <*> Check.fieldOr fs "device" none Check.text?
    <*> Check.fieldOr fs "node_id" none Check.text?
    <*> Check.fieldOr fs "force" false Check.bool

def SnapshotOptions.check : Reader SnapshotOptions := Check.record fun fs =>
  SnapshotOptions.mk <$> Check.fieldOr fs "name" none Check.text?

/-! ## Whatever was handed over -/

inductive Options
  | volume (o : VolumeOptions)
  | zonedVolume (o : ZonedVolumeOptions)
  | attach (o : AttachOptions)
  | detach (o : PlainDetachOptions)
  | forcedDetach (o : ForcedDetachOptions)
  | snapshot (o : SnapshotOptions)
  /-- No options of any kind, null among them. -/
  | other (d : Datum)

namespace Options

instance : Viewed Options where
  view
    | volume o => .named "VolumeOptions" [("kind", .text "generic"), ("size_gb", .real? o.sizeGb),
        ("location_id", .text? o.location)]
    | zonedVolume o => .named "EC2VolumeOptions" [("kind", .text "ec2"),
        ("size_gb", .real? o.sizeGb), ("location_id", .text? o.location),
        ("availability_zone", .text o.zone), ("snapshot_id", .text? o.snapshotId)]
    | attach o => .named "AttachVolumeOptions" [("device", .text o.device)]
    | detach o => .named "DetachVolumeOptions" [("kind", .text "generic"),
        ("device", .text? o.device), ("node_id", .text? o.nodeId)]
    | forcedDetach o => .named "EC2DetachVolumeOptions" [("kind", .text "ec2"),
        ("device", .text? o.device), ("node_id", .text? o.nodeId), ("force", .bool o.force)]
    | snapshot o => .named "CreateSnapshotOptions" [("name", .text? o.name)]
    | other d => .datum d

/-- Whether options were handed over at all. -/
def isGiven : Options → Bool
  | other d => d.isTruthy
  | _ => true

/-- The device that the options name, if their kind has one. -/
def device? (o : Options) : Except Fault (Option String) :=
  match o with
  | attach a => .ok (some a.device)
  | detach d => .ok d.device
  | forcedDetach d => .ok d.device
  | o => .error (.misuse (.noField (Viewed.view o).kindName "device"))

/-- The device that the options name, which must not be empty. -/
def requiredDevice (o : Options) : Except Fault String :=
  match o.device? with
  | .error f => .error f
  | .ok none => .error (.argument .deviceRequired)
  | .ok (some device) => if device.isEmpty then .error (.argument .deviceRequired) else .ok device

/-- The node that the options name, if their kind has one. -/
def nodeId? (o : Options) : Except Fault (Option String) :=
  match o with
  | detach d => .ok d.nodeId
  | forcedDetach d => .ok d.nodeId
  | o => .error (.misuse (.noField (Viewed.view o).kindName "node_id"))

/-- The name that the options give, if their kind has one. -/
def name? (o : Options) : Except Fault (Option String) :=
  match o with
  | snapshot s => .ok s.name
  | o => .error (.misuse (.noField (Viewed.view o).kindName "name"))

/-- Reads the options of a kind, given by the name of the kind. -/
def check (kind : String) : Reader Options :=
  if kind = "VolumeOptions" then fun d => Options.volume <$> VolumeOptions.check d
  else if kind = "EC2VolumeOptions" then fun d => Options.zonedVolume <$> ZonedVolumeOptions.check d
  else if kind = "AttachVolumeOptions" then fun d => Options.attach <$> AttachOptions.check d
  else if kind = "DetachVolumeOptions" then fun d => Options.detach <$> PlainDetachOptions.check d
  else if kind = "EC2DetachVolumeOptions" then
    fun d => Options.forcedDetach <$> ForcedDetachOptions.check d
  else if kind = "CreateSnapshotOptions" then fun d => Options.snapshot <$> SnapshotOptions.check d
  else fun d => .good (.other d)

/-- Create options of either kind. -/
def checkCreate : Reader Options :=
  Check.tagged [("generic", check "VolumeOptions"), ("ec2", check "EC2VolumeOptions")]

/-- Detach options of either kind. -/
def checkDetach : Reader Options :=
  Check.tagged [("generic", check "DetachVolumeOptions"), ("ec2", check "EC2DetachVolumeOptions")]

end Options

end BlockStorage
