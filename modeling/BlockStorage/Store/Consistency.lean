import BlockStorage.Store

/-!
# Consistency of a store

Every index entry has to agree with the main tables. `Store.consistencyErrors`
names each one that does not. There is nothing to say about a store that only
its operations have changed.
-/

namespace BlockStorage.Store

/-- A list of texts inside a message. -/
def listed (names : List String) : String := (Datum.list (names.map .text)).shown

/-- The nodes that hold each volume, by the index of nodes. -/
def holders (s : Store) : Table (List String) :=
  s.nodeVolumes.foldl (fun acc (node, volumes) =>
    volumes.foldl (fun acc v => acc.put v ((acc.get? v).getD [] ++ [node])) acc) []

/-- Entries of nodes that are empty or refer to volumes that are not there. -/
def nodeErrors (s : Store) : List String :=
  s.nodeVolumes.flatMap fun (node, volumes) =>
    (if volumes.isEmpty then [s!"empty node index entry {node}"] else [])
      ++ (volumes.filter fun v => !s.volumes.has v).map fun v =>
        s!"node {node} references missing volume {v}"

/-- Volumes at more than one node, or at a node without an attachment to it. -/
def holderErrors (s : Store) : List String :=
  s.holders.flatMap fun (v, nodes) =>
    let names := listed (nodes.mergeSort fun a b => a ≤ b)
    (if nodes.length ≠ 1 then [s!"volume {v} attached to {names}"] else [])
      ++ (if (s.attachments.get? v).map (·.node) = nodes.head? then []
        else [s!"volume {v} missing attachment record"])

/-- Attachments that their node or their volume does not know of. -/
def attachmentErrors (s : Store) : List String :=
  s.attachments.flatMap fun (v, a) =>
    (if (s.nodeVolumes.members a.node).contains v then []
      else [s!"attachment of {v} not indexed under {a.node}"])
      ++ (if (s.volumes.get? v).any fun record => record.device = some a.device then []
        else [s!"attachment of {v} disagrees with volume device"])

/-- A location inside a message. -/
def locationText (location : Option String) : String := (Datum.ofText? location).plain

/-- Members of the entry of a location that may be missing. -/
def membersAt (i : Index) : Option String → List String
  | some key => i.members key
  | none => []

/-- The scope of a handle that may be missing. -/
def scopeOf (handle : Option String) : Except BadArgument String :=
  match handle with
  | none => .error .noHandle
  | some h => (Handle.decode h).map (·.scope)

/-- Volumes whose device, location or handle disagrees with the rest. -/
def volumeErrors (s : Store) : Except BadArgument (List String) := do
  let errors ← s.volumes.mapM fun (id, v) => do
    let scope ← scopeOf (some id)
    let location := locationText v.location
    return (if v.device.isSome && !s.attachments.has id then
        [s!"volume {id} has device but no attachment"] else [])
      ++ (if (membersAt s.locationVolumes v.location).contains id then []
        else [s!"volume {id} missing from location index"])
      ++ (if v.location = some scope then [] else [s!"volume {id} scope differs from {location}"])
  return errors.flatten

/-- Entries of locations that list what is not there. -/
def locationErrors (s : Store) : List String :=
  (s.locationVolumes.flatMap fun (location, volumes) =>
    (volumes.filter fun v =>
        !(s.volumes.get? v).any fun r => r.location = some location).map fun v =>
      s!"location {location} lists stale volume {v}")
  ++ s.locationSnapshots.flatMap fun (location, snapshots) =>
    (snapshots.filter fun n =>
        !(s.snapshots.get? n).any fun r => r.location = some location).map fun n =>
      s!"location {location} lists stale snapshot {n}"

/-- Entries of volumes that are not there or list snapshots that are not theirs. -/
def volumeSnapshotErrors (s : Store) : List String :=
  s.volumeSnapshots.flatMap fun (v, snapshots) =>
    (if s.volumes.has v then [] else [s!"snapshot index references removed volume {v}"])
      ++ (snapshots.filter fun n =>
          !(s.snapshots.get? n).any fun r => r.volumeId = some v).map fun n =>
        s!"volume {v} lists stale snapshot {n}"

/-- Snapshots that are missing at their location or of another scope than their volume. -/
def snapshotErrors (s : Store) : Except BadArgument (List String) := do
  let errors ← s.snapshots.mapM fun (id, n) => do
    let source ← scopeOf n.volumeId
    let scope ← scopeOf (some id)
    return (if (membersAt s.locationSnapshots n.location).contains id then []
        else [s!"snapshot {id} missing from location index"])
      ++ (if source = scope then [] else [s!"snapshot {id} scope differs from its volume"])
  return errors.flatten

/-- Everything that disagrees. A key that is no handle is refused. -/
def consistencyErrors (s : Store) : Except BadArgument (List String) := do
  let volumes ← s.volumeErrors
  let snapshots ← s.snapshotErrors
  return s.nodeErrors ++ s.holderErrors ++ s.attachmentErrors ++ volumes ++ s.locationErrors
    ++ s.volumeSnapshotErrors ++ snapshots

end BlockStorage.Store
