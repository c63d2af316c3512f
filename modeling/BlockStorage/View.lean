import BlockStorage.Datum
import BlockStorage.Timestamp

/-!
# Views

A `View` is how a typed value looks from outside: its name, its fields in order,
and what they hold. Two texts come from it: `View.shown`, which stands in
messages and tells the kinds of values apart, and `View.datum`, the untyped data
that leaves the library.

* `Vocabulary`: a closed list of words, each with a name and a written value.
* `Viewed`: the types that have a view.
-/

namespace BlockStorage

/-! ## Closed lists of words -/

/-- A type whose members are a closed list of words. -/
class Vocabulary (α : Type) where
  /-- What messages call the list. -/
  title : String
  all : List α
  /-- How a member is written. -/
  value : α → String

namespace Vocabulary

variable {α : Type} [Vocabulary α]

/-- The name of a member: its value in capitals with low lines. -/
def name (a : α) : String :=
  String.ofList ((value a).toList.map fun c => if c = '-' then '_' else c.toUpper)

/-- The member with a given value. -/
def ofValue? (s : String) : Option α := (all : List α).find? fun a => value a == s

end Vocabulary

/-! ## Views -/

inductive View
  | datum (d : Datum)
  | moment (t : Timestamp)
  /-- A member of the vocabulary `title`. -/
  | word (title name value : String)
  | tuple (items : List View)
  | table (entries : List (String × View))
  | named (name : String) (fields : List (String × View))
  deriving Inhabited

namespace View

mutual

/-- The text inside a message. -/
def shown : View → String
  | datum d => d.shown
  | moment t => t.shown
  | word title name value => "<" ++ title ++ "." ++ name ++ ": " ++ Text.quoted value ++ ">"
  | tuple [x] => "(" ++ shown x ++ ",)"
  | tuple xs => "(" ++ ", ".intercalate (shownAll xs) ++ ")"
  | table es => "\x7b" ++ ", ".intercalate (shownEntries es) ++ "\x7d"
  | named name fs => name ++ "(" ++ ", ".intercalate (shownFields fs) ++ ")"

def shownAll : List View → List String
  | [] => []
  | x :: xs => shown x :: shownAll xs

def shownEntries : List (String × View) → List String
  | [] => []
  | (k, v) :: es => (Text.quoted k ++ ": " ++ shown v) :: shownEntries es

def shownFields : List (String × View) → List String
  | [] => []
  | (k, v) :: fs => (k ++ "=" ++ shown v) :: shownFields fs

end

mutual

/-- The untyped data. -/
def toDatum : View → Datum
  | datum d => d
  | moment t => .text t.iso
  | word _ _ value => .text value
  | tuple xs => .list (toData xs)
  | table es => .record (toFields es)
  | named _ fs => .record (toFields fs)

def toData : List View → List Datum
  | [] => []
  | x :: xs => toDatum x :: toData xs

def toFields : List (String × View) → List (String × Datum)
  | [] => []
  | (k, v) :: fs => (k, toDatum v) :: toFields fs

end

/-- The name of a named record. -/
def kindName : View → String
  | datum d => d.kindName
  | named name _ => name
  | word title _ _ => title
  | moment _ => "datetime"
  | tuple _ => "tuple"
  | table _ => "dict"

def text (s : String) : View := datum (.text s)

def real (x : Float) : View := datum (.real x)

def bool (b : Bool) : View := datum (.bool b)

def text? (s : Option String) : View := datum (Datum.ofText? s)

def real? (x : Option Float) : View := datum (Datum.ofReal? x)

def moment? : Option Timestamp → View
  | some t => moment t
  | none => datum .null

def ofWord {α : Type} [Vocabulary α] (a : α) : View :=
  word (Vocabulary.title α) (Vocabulary.name a) (Vocabulary.value a)

end View

/-- Types whose values can be looked at from outside. -/
class Viewed (α : Type) where
  view : α → View

/-- The untyped data of a value. -/
def datumOf {α : Type} [Viewed α] (a : α) : Datum := (Viewed.view a).toDatum

end BlockStorage
