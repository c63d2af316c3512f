import BlockStorage.Fault
import BlockStorage.Text.Case

/-!
# Environments

Texts under names, as a process finds them around itself. Names are the same in
capitals and in small letters. A name in parts, joined by two low lines, leads
into a record.

* `Environment.ofPairs`: an environment, its names in small letters.
* `Environment.nested`: the record that all names with a given beginning build.
* `Datum.overlaid`: one record laid over another, field by field.
-/

namespace BlockStorage

namespace Datum

mutual

/-- The second datum laid over the first: of two records, field by field. -/
def overlaid (under : Datum) : Datum → Datum
  | record upper => match under with
    | record fields => record (overlaidFields fields upper)
    | _ => record upper
  | d => d

def overlaidFields (under : Fields) : List (String × Datum) → Fields
  | [] => under
  | (name, d) :: upper =>
    let merged := match under.get? name with
      | some below => overlaid below d
      | none => d
    overlaidFields (under.put name merged) upper

end

/-- Writes a datum at the end of a path of names. Records are made on the way where nothing is; the
path ends without effect at anything else. -/
def putAt (value : Datum) : List String → Datum → Datum
  | [], _ => value
  | name :: path, record fields =>
    record (Table.put fields name (putAt value path ((Table.get? fields name).getD (record []))))
  | _ :: _, d => d

end Datum

/-- Texts under names in small letters. -/
abbrev Environment := Table String

namespace Environment

/-- Of names that differ only in the case of letters, the last counts. -/
def ofPairs (ps : List (String × String)) : Environment :=
  Table.ofPairs (ps.map fun p => (Text.lower p.1, p.2))

/-- Splits at every two low lines. -/
def parts : List Char → List (List Char)
  | [] => [[]]
  | '_' :: '_' :: cs => [] :: parts cs
  | c :: cs => match parts cs with
    | p :: ps => (c :: p) :: ps
    | [] => [[c]]

/-- The path that a name leads along after a beginning, if it begins that way. -/
def pathAfter? (start name : String) : Option (List String) :=
  if start.toList.isPrefixOf name.toList then
    some ((parts (name.toList.drop start.length)).map String.ofList)
  else none

/-- The record that all names with a given beginning build, in the order of the environment. What
stands at a path is made of its text by `value`, which may fail. -/
def nested (env : Environment) (start : String)
    (value : List String → String → Except Fault Datum) : Except Fault Datum :=
  env.foldlM (fun acc (name, s) =>
    match pathAfter? start name with
    | none => .ok acc
    | some path => (value path s).map fun d => Datum.putAt d path acc) (.record [])

end Environment

end BlockStorage
