import BlockStorage.Log.Record
import BlockStorage.Operation
import BlockStorage.Text.Case

/-!
# The store

Volumes and snapshots of one tenant, kept in memory. The two main tables hold the
records by their ids; attachments and indices say which volumes a node holds,
and what there is at a location or of a volume. Every change updates the tables
and all indices at once, and takes effect immediately.

A volume is attached to one node at most. Snapshots outlive their volume.

* `Store`: the tables, the indices, and the two counters that ids are made from.
* `Store.Step`: the result of an operation and the store after it.
* `Store.perform`: what each operation does.
-/

namespace BlockStorage

structure StoreSettings where
  volumePrefix : String := "vol-"
  snapshotPrefix : String := "snap-"
  /-- The type of new volumes, in any case of letters. -/
  volumeType : String := "local"

/-- The node that holds a volume, and the device it holds it by. -/
structure Attachment where
  node : String
  device : String
  deriving DecidableEq, Repr

structure Store where
  settings : StoreSettings
  volumeType : VolumeType
  volumes : Table Volume := []
  snapshots : Table Snapshot := []
  /-- Attachments by volume. -/
  attachments : Table Attachment := []
  nodeVolumes : Index := []
  locationVolumes : Index := []
  locationSnapshots : Index := []
  volumeSnapshots : Index := []
  nextVolume : Nat := 1
  nextSnapshot : Nat := 1

/-! ## Events -/

/-- What a store reports. -/
inductive StoreEvent
  | missing (operation resource : String)
  | volumeCreated (volume : String) (snapshot : Option String)
  | volumeAttached (volume node device : String)
  | attachmentConflict (volume node holder : String)
  | volumeDetached (volume node device : String)
  | volumeRemoved (volume : String)
  | snapshotCreated (snapshot volume : String)
  | snapshotDeleted (snapshot : String)

namespace StoreEvent

/-- The log record of an event. -/
def record (e : StoreEvent) : LogRecord :=
  let make (level : Level) (message : String) (event : LogEvent) (fields : Fields) : LogRecord :=
    ⟨level, "blockhub.adapters.memory.store", message, LogRecord.about event .store ++ fields⟩
  match e with
  | missing operation resource =>
    make .info s!"{operation}: resource {resource} not found" .resourceNotFound
      [("resource_id", .text resource)]
  | volumeCreated volume snapshot =>
    make .info "Volume created" .volumeCreated
      [("volume_id", .text volume), ("snapshot_id", .ofText? snapshot)]
  | volumeAttached volume node device =>
    make .info "Volume attached" .volumeAttached
      [("volume_id", .text volume), ("node_id", .text node), ("device", .text device)]
  | attachmentConflict volume node holder =>
    make .warning "Volume already attached to another node" .attachmentConflict
      [("volume_id", .text volume), ("node_id", .text node), ("holder", .text holder)]
  | volumeDetached volume node device =>
    make .info "Volume detached" .volumeDetached
      [("volume_id", .text volume), ("node_id", .text node), ("device", .text device)]
  | volumeRemoved volume => make .info "Volume removed" .volumeRemoved [("volume_id", .text volume)]
  | snapshotCreated snapshot volume =>
    make .info "Snapshot created" .snapshotCreated
      [("snapshot_id", .text snapshot), ("volume_id", .text volume)]
  | snapshotDeleted snapshot =>
    make .info "Snapshot deleted" .snapshotDeleted [("snapshot_id", .text snapshot)]

end StoreEvent

/-! ## Operations -/

namespace Store

/-- An empty store, if the settings name a volume type. -/
def new (settings : StoreSettings) : Except Fault Store :=
  let name := Text.upper settings.volumeType
  match Vocabulary.ofValue? name with
  | some volumeType => .ok { settings, volumeType }
  | none => .error (.misuse (.notAMember (.text name) (Vocabulary.title VolumeType)))

/-- The result of an operation, the store after it, and what it reports. -/
structure Step (α : Type) where
  answer : Except Fault α
  store : Store
  event : Option StoreEvent := none

variable {α : Type}

/-- An operation that changes nothing. -/
def answering (s : Store) (answer : Except Fault α) (event : Option StoreEvent := none) : Step α :=
  ⟨answer, s, event⟩

/-- An operation that refuses an argument. -/
def refusing (s : Store) (why : BadArgument) : Step α := s.answering (.error (.argument why))

/-- An operation that reports a missing resource. -/
def missing (s : Store) (operation resource : String) (answer : α) : Step α :=
  s.answering (.ok answer) (some (.missing operation resource))

/-- What a new volume is made of. -/
structure Order where
  location : String
  sizeGb : Option Float
  snapshotId : Option String

/-- Where options put a volume: a zone's region, or the location that they name. -/
def locate : Options → Except BadArgument Order
  | .zonedVolume o => do
    let region ← Handle.regionOfZone o.zone
    if let some location := o.location then
      if location ≠ region then throw (.zoneOutsideLocation location o.zone)
    return ⟨region, o.sizeGb, o.snapshotId⟩
  | .volume o => return ⟨o.location.getD "", o.sizeGb, none⟩
  | o => throw (.unsupportedVolumeOptions (Viewed.view o))

/-- What options order: there is a location, and a size or a snapshot of that location. -/
def order (options : Options) : Except BadArgument Order := do
  let o ← locate options
  if o.location.isEmpty then throw .locationRequired
  match o.snapshotId with
  | none => if o.sizeGb.isNone then throw .sizeRequired else return o
  | some id =>
    let source ← Handle.decode id
    if source.scope ≠ o.location then throw (.snapshotOutsideLocation id o.location)
    return o

/-- The size of an ordered volume: the one that is asked for, or that of the snapshot, which has to
be there. -/
def sizeOf? (s : Store) (o : Order) : Option (Option Float) :=
  match o.snapshotId with
  | none => some o.sizeGb
  | some id => (s.snapshots.get? id).map fun source => o.sizeGb.orElse fun _ => source.sizeGb

/-- Puts a new volume into the table and its location. -/
def insertVolume (s : Store) (v : Volume) (location : String) : Store :=
  { s with
    volumes := s.volumes.put v.id v
    locationVolumes := s.locationVolumes.add location v.id }

/-- The name is looked at last, when the id has been used up. -/
def createVolume (s : Store) (name : Datum) (options : Options) : Step (Option Volume) :=
  match order options with
  | .error why => s.refusing why
  | .ok o =>
    match s.sizeOf? o with
    | none => s.missing "create_volume" (o.snapshotId.getD "") none
    | some sizeGb =>
      match Handle.encode o.location (s.settings.volumePrefix ++ toString s.nextVolume) with
      | .error why => s.refusing why
      | .ok id =>
        let s := { s with nextVolume := s.nextVolume + 1 }
        match ((Check.nullable Check.text name).under "name").orFault with
        | .error f => s.answering (.error f)
        | .ok name =>
          let v : Volume := { id, sizeGb, location := some o.location, type := s.volumeType, name }
          ⟨.ok (some v), s.insertVolume v o.location, some (.volumeCreated id o.snapshotId)⟩

/-- Links a volume to a node. -/
def link (s : Store) (v : Volume) (volume : String) (a : Attachment) : Store :=
  { s with
    attachments := s.attachments.put volume a
    nodeVolumes := s.nodeVolumes.add a.node volume
    volumes := s.volumes.put volume { v with device := some a.device } }

/-- Takes the attachment of a volume away. -/
def unlink (s : Store) (volume : String) : Store :=
  match s.attachments.get? volume with
  | none => s
  | some a =>
    { s with
      attachments := s.attachments.erase volume
      nodeVolumes := s.nodeVolumes.discard a.node volume }

/-- Attaching a volume to the node that holds it already succeeds and changes nothing. -/
def attachVolume (s : Store) (volume node : String) (options : Options) : Step Bool :=
  match options.requiredDevice with
  | .error f => s.answering (.error f)
  | .ok device =>
    match Handle.sameScope volume node with
    | .error why => s.refusing why
    | .ok _ =>
      match s.volumes.get? volume with
      | none => s.missing "attach_volume" volume false
      | some v =>
        match s.attachments.get? volume with
        | some held =>
          if held.node = node then s.answering (.ok true)
          else s.answering (.ok false) (some (.attachmentConflict volume node held.node))
        | none =>
          ⟨.ok true, s.link v volume ⟨node, device⟩, some (.volumeAttached volume node device)⟩

/-- Whether an attachment passes the filters of detach options. -/
def passes (options : Options) (a : Attachment) : Except Fault Bool := do
  if !options.isGiven then return true
  if (← options.device?).any (· ≠ a.device) then return false
  return (← options.nodeId?).all (· = a.node)

def detachVolume (s : Store) (volume : String) (options : Options) : Step Bool :=
  match Handle.decode volume with
  | .error why => s.refusing why
  | .ok _ =>
    match s.volumes.get? volume with
    | none => s.missing "detach_volume" volume false
    | some v =>
      match s.attachments.get? volume with
      | none => s.answering (.ok false)
      | some a =>
        match passes options a with
        | .error f => s.answering (.error f)
        | .ok false => s.answering (.ok false)
        | .ok true =>
          let s := s.unlink volume
          ⟨.ok true, { s with volumes := s.volumes.put volume { v with device := none } },
            some (.volumeDetached volume a.node a.device)⟩

/-- Takes a member out from under a key that may be missing. -/
def discardAt (i : Index) (key : Option String) (member : String) : Index :=
  match key with
  | none => i
  | some key => i.discard key member

/-- Removes a volume and everything that refers to it, but not its snapshots. -/
def removeVolume (s : Store) (volume : String) : Step Bool :=
  match Handle.decode volume with
  | .error why => s.refusing why
  | .ok _ =>
    match s.volumes.get? volume with
    | none => s.answering (.ok false)
    | some v =>
      let s := { s with volumes := s.volumes.erase volume }.unlink volume
      ⟨.ok true,
        { s with
          locationVolumes := discardAt s.locationVolumes v.location volume
          volumeSnapshots := s.volumeSnapshots.erase volume },
        some (.volumeRemoved volume)⟩

/-- The location of a volume's snapshots. -/
def snapshotLocation (v : Volume) (handle : Handle) : String :=
  match v.location with
  | some location => if location.isEmpty then handle.scope else location
  | none => handle.scope

/-- Puts a new snapshot into the table, its location, and the index of its volume. -/
def insertSnapshot (s : Store) (snapshot : Snapshot) (location volume : String) : Store :=
  { s with
    snapshots := s.snapshots.put snapshot.id snapshot
    locationSnapshots := s.locationSnapshots.add location snapshot.id
    volumeSnapshots := s.volumeSnapshots.add volume snapshot.id }

/-- The options and the clock are looked at last, when the id has been used up. -/
def createSnapshot (s : Store) (volume : String) (options : Options)
    (now : Except Fault Timestamp) : Step (Option Snapshot) :=
  match Handle.decode volume with
  | .error why => s.refusing why
  | .ok handle =>
    match s.volumes.get? volume with
    | none => s.missing "create_snapshot" volume none
    | some v =>
      let location := snapshotLocation v handle
      match Handle.encode location (s.settings.snapshotPrefix ++ toString s.nextSnapshot) with
      | .error why => s.refusing why
      | .ok id =>
        let s := { s with nextSnapshot := s.nextSnapshot + 1 }
        let asked : Except Fault (Option String × Timestamp) := do
          return (← if options.isGiven then options.name? else .ok none, ← now)
        match asked with
        | .error f => s.answering (.error f)
        | .ok (name, now) =>
          let snapshot : Snapshot :=
            ⟨id, v.sizeGb, name, some location, some volume, some now⟩
          ⟨.ok (some snapshot), s.insertSnapshot snapshot location volume,
            some (.snapshotCreated id volume)⟩

def deleteSnapshot (s : Store) (snapshot : String) : Step Bool :=
  match Handle.decode snapshot with
  | .error why => s.refusing why
  | .ok _ =>
    match s.snapshots.get? snapshot with
    | none => s.answering (.ok false)
    | some record =>
      ⟨.ok true,
        { s with
          snapshots := s.snapshots.erase snapshot
          locationSnapshots := discardAt s.locationSnapshots record.location snapshot
          volumeSnapshots := discardAt s.volumeSnapshots record.volumeId snapshot },
        some (.snapshotDeleted snapshot)⟩

/-! ## Reading -/

/-- The records of an index entry, each of which has to be there. -/
def lookUp [BEq α] (t : Table α) (ids : List String) : Except Fault (List α) := do
  let records ← ids.mapM fun id =>
    match t.get? id with
    | some a => .ok a
    | none => .error (.misuse (.missingKey id))
  return distinct records

/-- Answers if a handle is well-formed. -/
def withHandle (handle : String) (answer : Except Fault α) : Except Fault α :=
  match Handle.decode handle with
  | .error why => .error (.argument why)
  | .ok _ => answer

/-- What each operation does. The time is asked for only where it is needed, and may be one that
cannot be told. -/
def perform (s : Store) (now : Except Fault Timestamp) : (op : Operation) → Step op.Answer
  | .createVolume name options => s.createVolume name options
  | .attachVolume volume node options => s.attachVolume volume node options
  | .detachVolume volume options => s.detachVolume volume options
  | .removeVolume volume => s.removeVolume volume
  | .getVolume volume => s.answering (withHandle volume (.ok (s.volumes.get? volume)))
  | .listVolumes => s.answering (.ok (distinct s.volumes.values))
  | .listVolumesIn location =>
    s.answering (lookUp s.volumes (s.locationVolumes.members location))
  | .listVolumesOf node =>
    s.answering (withHandle node (lookUp s.volumes (s.nodeVolumes.members node)))
  | .createSnapshot volume options => s.createSnapshot volume options now
  | .deleteSnapshot snapshot => s.deleteSnapshot snapshot
  | .getSnapshot snapshot => s.answering (withHandle snapshot (.ok (s.snapshots.get? snapshot)))
  | .listSnapshots => s.answering (.ok (distinct s.snapshots.values))
  | .listSnapshotsIn location =>
    s.answering (lookUp s.snapshots (s.locationSnapshots.members location))
  | .listSnapshotsOf volume =>
    s.answering (withHandle volume (lookUp s.snapshots (s.volumeSnapshots.members volume)))

end Store

end BlockStorage
