import BlockStorage.Datum.Access

/-!
# The order of data

Numbers are ordered by value, texts by their characters, and lists by the first
items that differ. Data of other kinds, or of two kinds, have no order: to compare
them is a fault, and so is to sort a list in which two such data meet.

* `Datum.equals`: equality by value; whole numbers, doubles and truth values mix.
* `Datum.less`: the order.
* `Datum.ordered`: a list sorted; items of equal value keep their places.
-/

namespace BlockStorage.Datum

/-- The amount that a datum stands for. -/
def amount? : Datum → Option Amount
  | int n => some (.whole n)
  | bool b => some (.whole (if b then 1 else 0))
  | real x => some (.real x)
  | _ => none

mutual

/-- Equality by value. The fields of a record have no order. -/
def equals : Datum → Datum → Bool
  | null, null => true
  | text s, text t => s == t
  | list xs, list ys => equalItems xs ys
  | record fs, record gs => fs.length == gs.length && equalFields fs gs
  | a, b => match a.amount?, b.amount? with
    | some m, some n => !m.lt n && !n.lt m && !m.toReal.isNaN && !n.toReal.isNaN
    | _, _ => false

def equalItems : List Datum → List Datum → Bool
  | [], [] => true
  | x :: xs, y :: ys => equals x y && equalItems xs ys
  | _, _ => false

def equalFields : List (String × Datum) → List (String × Datum) → Bool
  | [], _ => true
  | (k, v) :: fs, gs => (match gs.lookup k with
    | some w => equals v w
    | none => false) && equalFields fs gs

end

/-- Two data that have no order. -/
def unordered (a b : Datum) : Except Fault Bool :=
  .error (.misuse (.notOrdered "<" a.kindName b.kindName))

mutual

/-- Whether the first datum comes before the second. -/
def less : Datum → Datum → Except Fault Bool
  | text s, text t => .ok (s < t)
  | list xs, list ys => lessItems xs ys
  | a, b => match a.amount?, b.amount? with
    | some m, some n => .ok (m.lt n)
    | _, _ => unordered a b

/-- Whether the first list comes before the second: by the first items that differ, or because it
ends first. -/
def lessItems : List Datum → List Datum → Except Fault Bool
  | [], ys => .ok !ys.isEmpty
  | _ :: _, [] => .ok false
  | x :: xs, y :: ys => if equals x y then lessItems xs ys else less x y

end

/-- The items up to where the direction changes, and the rest. `falls` says whether each item comes
before the one that it follows. -/
def run (falls : Bool) (last : Datum) : List Datum → Except Fault (List Datum × List Datum)
  | [] => .ok ([], [])
  | x :: xs => do
    if (← less x last) = falls then
      let (front, rest) ← run falls x xs
      return (x :: front, rest)
    else return ([], x :: xs)

/-- Where a datum belongs in a list in order, behind all that are not greater. The place is found by
halving. -/
def place (d : Datum) (xs : List Datum) : Except Fault Nat :=
  match h : xs.drop (xs.length / 2) with
  | [] => .ok 0
  | x :: later => do
    if ← less d x then place d (xs.take (xs.length / 2))
    else return xs.length / 2 + 1 + (← place d later)
termination_by xs.length
decreasing_by
  all_goals
    have := congrArg List.length h
    simp only [List.length_drop, List.length_cons] at this
    first
      | (simp only [List.length_take]; omega)
      | omega

/-- A list in order. The items that stand in order, or in reverse, at its front are taken as they
are; the others are put in one after the other. -/
def ordered : List Datum → Except Fault (List Datum)
  | x :: y :: ys => do
    let falls ← less y x
    let (front, rest) ← run falls y ys
    let sorted := x :: y :: front
    rest.foldlM (fun sorted d => return sorted.insertIdx (← place d sorted) d)
      (if falls then sorted.reverse else sorted)
  | xs => .ok xs

end BlockStorage.Datum
