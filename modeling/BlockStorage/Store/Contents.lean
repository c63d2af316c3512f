import BlockStorage.Store

/-!
# The contents of a store

All tables and indices of a store as data, every entry under its own key. The
members of an index entry are a set and stand in the order of their texts.
-/

namespace BlockStorage

instance : Viewed Attachment where
  view a := .tuple [.text a.node, .text a.device]

/-- A table of records. -/
def View.ofTable {α : Type} [Viewed α] (t : Table α) : View :=
  table (t.map fun e => (e.1, Viewed.view e.2))

/-- A table of sets. -/
def View.ofIndex (i : Index) : View :=
  table (i.map fun e => (e.1, tuple ((Datum.inOrder (e.2.map .text)).map datum)))

instance : Viewed Store where
  view s := .named "Store" [("volumes", .ofTable s.volumes), ("snapshots", .ofTable s.snapshots),
    ("attachments", .ofTable s.attachments), ("node_volumes", .ofIndex s.nodeVolumes),
    ("location_volumes", .ofIndex s.locationVolumes),
    ("location_snapshots", .ofIndex s.locationSnapshots),
    ("volume_snapshots", .ofIndex s.volumeSnapshots)]

end BlockStorage
