import BlockStorage.Operation

/-!
# Kinds of operations, kinds of answers

* `Operation.changing?`: which operations change something.
* `Operation.affirms`: which answers say yes; `Operation.negative` never does.
* `Fault.isArgument`: which faults refuse an argument.
-/

namespace BlockStorage

def Fault.isArgument : Fault → Bool
  | argument _ => true
  | _ => false

namespace Operation

/-- The name of an operation that changes something. -/
def changing? : Operation → Option String
  | createVolume _ _ => some "create_volume"
  | attachVolume _ _ _ => some "attach_volume"
  | detachVolume _ _ => some "detach_volume"
  | removeVolume _ => some "remove_volume"
  | createSnapshot _ _ => some "create_snapshot"
  | deleteSnapshot _ => some "delete_snapshot"
  | _ => none

/-- The answer that stands for something absent. -/
def negative : (op : Operation) → op.Answer
  | createVolume _ _ => none
  | attachVolume _ _ _ => false
  | detachVolume _ _ => false
  | removeVolume _ => false
  | getVolume _ => none
  | listVolumes => []
  | listVolumesIn _ => []
  | listVolumesOf _ => []
  | createSnapshot _ _ => none
  | deleteSnapshot _ => false
  | getSnapshot _ => none
  | listSnapshots => []
  | listSnapshotsIn _ => []
  | listSnapshotsOf _ => []

/-- Whether an answer says yes: a record was made, or what was asked for is done. To read is to ask
for nothing. -/
def affirms : (op : Operation) → op.Answer → Bool
  | createVolume _ _, v => v.isSome
  | attachVolume _ _ _, b => b
  | detachVolume _ _, b => b
  | removeVolume _, b => b
  | createSnapshot _ _, n => n.isSome
  | deleteSnapshot _, b => b
  | getVolume _, _ | listVolumes, _ | listVolumesIn _, _ | listVolumesOf _, _ | getSnapshot _, _
  | listSnapshots, _ | listSnapshotsIn _, _ | listSnapshotsOf _, _ => false

theorem affirms_negative (op : Operation) : op.affirms op.negative = false := by
  cases op <;> rfl

theorem affirms_of_reading {op : Operation} (h : op.changing? = none) (a : op.Answer) :
    op.affirms a = false := by
  cases op with
  | createVolume | attachVolume | detachVolume | removeVolume | createSnapshot | deleteSnapshot =>
    cases h
  | _ => rfl

end Operation

end BlockStorage
