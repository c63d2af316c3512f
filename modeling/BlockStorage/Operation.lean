import BlockStorage.Datum.Printer
import BlockStorage.Volume.Options

/-!
# Operations

What callers can ask of block storage, whichever way it is kept. All ids are
handles. What is absent gives a negative answer and not a fault: no record, no
success, or an empty list.

* `Operation.Answer`: what an operation is answered with.
* `Operation.answerDatum`: how an answer looks from outside.
-/

namespace BlockStorage

inductive Operation
  | createVolume (name : Datum) (options : Options)
  | attachVolume (volume node : String) (options : Options)
  | detachVolume (volume : String) (options : Options)
  | removeVolume (volume : String)
  | getVolume (volume : String)
  | listVolumes
  | listVolumesIn (location : String)
  | listVolumesOf (node : String)
  | createSnapshot (volume : String) (options : Options)
  | deleteSnapshot (snapshot : String)
  | getSnapshot (snapshot : String)
  | listSnapshots
  | listSnapshotsIn (location : String)
  | listSnapshotsOf (volume : String)

namespace Operation

abbrev Answer : Operation → Type
  | createVolume _ _ => Option Volume
  | attachVolume _ _ _ => Bool
  | detachVolume _ _ => Bool
  | removeVolume _ => Bool
  | getVolume _ => Option Volume
  | listVolumes => List Volume
  | listVolumesIn _ => List Volume
  | listVolumesOf _ => List Volume
  | createSnapshot _ _ => Option Snapshot
  | deleteSnapshot _ => Bool
  | getSnapshot _ => Option Snapshot
  | listSnapshots => List Snapshot
  | listSnapshotsIn _ => List Snapshot
  | listSnapshotsOf _ => List Snapshot

/-- The data of a record, or null. -/
def maybe {α : Type} [Viewed α] : Option α → Datum
  | some a => datumOf a
  | none => .null

/-- The data of a set of records, in the order of their texts. -/
def several {α : Type} [Viewed α] (as : List α) : Datum := .list (Datum.inOrder (as.map datumOf))

/-- The data of an answer. -/
def answerDatum : (op : Operation) → op.Answer → Datum
  | createVolume _ _, v => maybe v
  | attachVolume _ _ _, b => .bool b
  | detachVolume _ _, b => .bool b
  | removeVolume _, b => .bool b
  | getVolume _, v => maybe v
  | listVolumes, vs => several vs
  | listVolumesIn _, vs => several vs
  | listVolumesOf _, vs => several vs
  | createSnapshot _ _, s => maybe s
  | deleteSnapshot _, b => .bool b
  | getSnapshot _, s => maybe s
  | listSnapshots, ss => several ss
  | listSnapshotsIn _, ss => several ss
  | listSnapshotsOf _, ss => several ss

end Operation

end BlockStorage
