import BlockStorage.Decimal.Amount
import BlockStorage.Decimal.Layout
import BlockStorage.Decimal.Numeral
import BlockStorage.Table
import BlockStorage.Text.Quoted

/-!
# Data

A `Datum` is what crosses the border of the library untyped: configuration
values, provider responses, extra fields of log records. Whole numbers and
doubles are different things, and a record keeps the order in which its fields
were first written.

* `Fields`: the fields of a record; `Datum.field?` reads one.
* `Datum.shown`: the text of a datum inside a message.
* `Datum.kindName`: what a message calls the kind of a datum.
-/

namespace BlockStorage

inductive Datum
  | null
  | bool (b : Bool)
  | int (n : Int)
  | real (x : Float)
  | text (s : String)
  | list (items : List Datum)
  | record (fields : List (String × Datum))
  deriving Inhabited

/-- Named data. -/
abbrev Fields := Table Datum

namespace Datum

/-- A field of a record. -/
def field? (name : String) : Datum → Option Datum
  | record fs => fs.lookup name
  | _ => none

/-- A text, or null. -/
def ofText? : Option String → Datum
  | some s => text s
  | none => null

/-- A double, or null. -/
def ofReal? : Option Float → Datum
  | some x => real x
  | none => null

/-- An amount, whole or not as it was given. -/
def ofAmount : Amount → Datum
  | .whole n => int n
  | .real x => real x

/-- Whether a datum counts as present where only presence is asked for. -/
def isTruthy : Datum → Bool
  | null => false
  | bool b => b
  | int n => n ≠ 0
  | real x => x != 0.0
  | text s => s ≠ ""
  | list xs => !xs.isEmpty
  | record fs => !fs.isEmpty

/-- What a message calls the kind of a datum. -/
def kindName : Datum → String
  | null => "NoneType"
  | bool _ => "bool"
  | int _ => "int"
  | real _ => "float"
  | text _ => "str"
  | list _ => "list"
  | record _ => "dict"

mutual

/-- The text of a datum inside a message. -/
def shown : Datum → String
  | null => "None"
  | bool true => "True"
  | bool false => "False"
  | int n => toString n
  | real x => Decimal.text x
  | text s => Text.quoted s
  | list xs => "[" ++ ", ".intercalate (shownAll xs) ++ "]"
  | record fs => "\x7b" ++ ", ".intercalate (shownFields fs) ++ "\x7d"

def shownAll : List Datum → List String
  | [] => []
  | x :: xs => shown x :: shownAll xs

def shownFields : List (String × Datum) → List String
  | [] => []
  | (k, v) :: fs => (Text.quoted k ++ ": " ++ shown v) :: shownFields fs

end

/-- The plain text of a datum: a text stands for itself. -/
def plain : Datum → String
  | text s => s
  | d => d.shown

end Datum

end BlockStorage
