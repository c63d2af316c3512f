import BlockStorage.View

/-!
# Checking untyped data

A reader turns a datum into a typed value or names everything that is wrong with
it. Unlike an exception, a failed check goes on to the next field, so that all
issues of a record are reported together and in the order of its fields.

Readers are lenient in fixed ways: a text that holds a numeral counts as the
number, a boolean as zero or one, and a few words as booleans.

* `Issue`: what is wrong, and where.
* `Checked`: a value, or the issues; `Checked.both` collects from two sides.
* `Check.text`, `Check.real`, `Check.whole`, …: the readers.
* `Check.field`, `Check.fieldOr`: fields that must or may be there.
-/

namespace BlockStorage

/-! ## Issues -/

inductive IssueKind
  | missing | extraForbidden | frozenInstance | valueError
  | stringType | floatType | floatParsing | intType | intParsing | intParsingSize | intFromFloat
  | finiteNumber
  | boolType | boolParsing | notInEnum | literalError | greaterThan | greaterThanEqual
  | listType | tupleType | dictType | modelType | modelAttributesType
  | unionTagNotFound | unionTagInvalid | datetimeType | datetimeParsing
  | datetimeFromDateParsing
  deriving DecidableEq, Repr

/-- The code under which an issue is reported. -/
def IssueKind.code : IssueKind → String
  | missing => "missing"
  | extraForbidden => "extra_forbidden"
  | frozenInstance => "frozen_instance"
  | valueError => "value_error"
  | stringType => "string_type"
  | floatType => "float_type"
  | floatParsing => "float_parsing"
  | intType => "int_type"
  | intParsing => "int_parsing"
  | intParsingSize => "int_parsing_size"
  | intFromFloat => "int_from_float"
  | finiteNumber => "finite_number"
  | boolType => "bool_type"
  | boolParsing => "bool_parsing"
  | notInEnum => "enum"
  | literalError => "literal_error"
  | greaterThan => "greater_than"
  | greaterThanEqual => "greater_than_equal"
  | listType => "list_type"
  | tupleType => "tuple_type"
  | dictType => "dict_type"
  | modelType => "model_type"
  | modelAttributesType => "model_attributes_type"
  | unionTagNotFound => "union_tag_not_found"
  | unionTagInvalid => "union_tag_invalid"
  | datetimeType => "datetime_type"
  | datetimeParsing => "datetime_parsing"
  | datetimeFromDateParsing => "datetime_from_date_parsing"

/-- Something wrong with the part of the data that a path leads to. -/
structure Issue where
  path : List String
  kind : IssueKind
  deriving DecidableEq, Repr

/-- `path.to.part: code`. -/
def Issue.text (i : Issue) : String := ".".intercalate i.path ++ ": " ++ i.kind.code

/-! ## Checked values -/

inductive Checked (α : Type)
  | good (a : α)
  | bad (issues : List Issue)

namespace Checked

def map {α β : Type} (f : α → β) : Checked α → Checked β
  | good a => good (f a)
  | bad is => bad is

/-- Collects the issues of both sides, those of the first side first. -/
def both {α β : Type} (f : Checked (α → β)) (a : Checked α) : Checked β :=
  match f, a with
  | good f, good a => good (f a)
  | good _, bad is => bad is
  | bad is, good _ => bad is
  | bad is, bad js => bad (is ++ js)

/-- Goes on with a value. -/
def andThen {α β : Type} (a : Checked α) (f : α → Checked β) : Checked β :=
  match a with
  | good a => f a
  | bad is => bad is

/-- A single issue about the data as a whole. -/
def fail {α : Type} (kind : IssueKind) : Checked α := bad [⟨[], kind⟩]

/-- Puts a step in front of the path of every issue. -/
def under {α : Type} (step : String) : Checked α → Checked α
  | good a => good a
  | bad is => bad (is.map fun i => { i with path := step :: i.path })

instance : Functor Checked := ⟨fun f a => map f a, fun a b => map (fun _ => a) b⟩

instance : Seq Checked := ⟨fun f a => both f (a ())⟩

theorem both_good_iff {α β : Type} (f : Checked (α → β)) (a : Checked α) (b : β) :
    both f a = good b ↔ ∃ g x, f = good g ∧ a = good x ∧ g x = b := by
  cases f <;> cases a <;> simp [both]

end Checked

/-- A reader of untyped data. -/
abbrev Reader (α : Type) := Datum → Checked α

namespace Check

open Checked (good fail)

/-! ## Readers of single values -/

def text : Reader String
  | .text s => good s
  | _ => fail .stringType

/-- Null, or a value. -/
def nullable {α : Type} (r : Reader α) : Reader (Option α)
  | .null => good none
  | d => (r d).map some

/-- A double. -/
def real : Reader Float
  | .real x => good x
  | .int n => match Decimal.Real.ofInt? n with
    | some x => good x
    | none => fail .floatType
  | .bool b => good (if b then 1.0 else 0.0)
  | .text s => match Decimal.lenientDouble? s with
    | some x => good x
    | none => fail .floatParsing
  | _ => fail .floatType

/-- Whether a whole number fits a signed word of 64 bits. -/
def isWord (n : Int) : Bool := -(Nat.pow 2 63) ≤ n && n < Nat.pow 2 63

/-- A double without a fraction as a whole number. Only those strictly within a signed word of 64
bits are taken. -/
def wholeOfReal (x : Float) : Checked Int :=
  match Decimal.Real.truncate? x with
  | none => fail .finiteNumber
  | some n =>
    if !Decimal.Real.isWhole x then fail .intFromFloat
    else if -(Nat.pow 2 63) < n && n < Nat.pow 2 63 then good n
    else fail .intParsingSize

/-- A whole number. -/
def whole : Reader Int
  | .int n => good n
  | .bool b => good (if b then 1 else 0)
  | .real x => wholeOfReal x
  | .text s => match Decimal.lenientWhole s with
    | .ok n => good n
    | .error .malformed => fail .intParsing
    | .error .overlong => fail .intParsingSize
  | _ => fail .intType

/-- The words for false and true. -/
def boolWords : List (String × Bool) :=
  ["0", "off", "f", "false", "n", "no"].map (·, false)
    ++ ["1", "on", "t", "true", "y", "yes"].map (·, true)

def bool : Reader Bool
  | .bool b => good b
  | .int n => if isWord n then number n else fail .boolType
  | .real x => match wholeOfReal x with
    | good n => number n
    | _ => fail .boolType
  | .text s => match boolWords.lookup (String.ofList (s.toList.map Char.toLower)) with
    | some b => good b
    | none => fail .boolParsing
  | _ => fail .boolType
where
  /-- Zero and one are booleans. -/
  number (n : Int) : Checked Bool :=
    if n = 0 then good false else if n = 1 then good true else fail .boolParsing

/-- A member of a vocabulary, by its value. -/
def word {α : Type} [Vocabulary α] : Reader α
  | .text s => match Vocabulary.ofValue? s with
    | some a => good a
    | none => fail .notInEnum
  | _ => fail .notInEnum

/-- One fixed text. -/
def literal (value : String) : Reader Unit
  | .text s => if s = value then good () else fail .literalError
  | _ => fail .literalError

/-- The timestamp that a number without an exponent, in a text, stands for. -/
def datedNumber? (cs : List Char) : Option Timestamp :=
  let (negative, body) := Decimal.takeSign cs
  if body.isEmpty then none
  else if body.all Char.isDigit then
    let n : Int := Decimal.accumulate 0 body
    Timestamp.ofWhole? (if negative then -n else n)
  else if body.all fun c => c.isDigit || c = '.' then
    (Decimal.unsigned? negative body).bind Timestamp.ofReal?
  else none

/-- A date with a time, or a number that stands for one. A text or a number can name the year zero,
but no timestamp has it. -/
def timestamp : Reader Timestamp
  | .text s => match (Timestamp.read? s).orElse fun _ => datedNumber? s.toList with
    | some t => named t
    | none => fail .datetimeFromDateParsing
  | .int n => match Decimal.Real.ofInt? n, Timestamp.ofWhole? n with
    | none, _ => fail .datetimeType
    | some _, some t => named t
    | some _, none => fail .datetimeParsing
  | .real x => match Timestamp.ofReal? x with
    | some t => named t
    | none => fail .datetimeParsing
  | _ => fail .datetimeType
where
  named (t : Timestamp) : Checked Timestamp := if t.year = 0 then fail .datetimeParsing else good t

/-! ## Bounds -/

/-- Requires more than zero. -/
def positive (r : Reader Float) : Reader Float := fun d =>
  (r d).andThen fun x => if 0.0 < x then good x else fail .greaterThan

/-- Requires zero or more. -/
def nonnegative (r : Reader Float) : Reader Float := fun d =>
  (r d).andThen fun x => if 0.0 ≤ x then good x else fail .greaterThanEqual

/-- Requires a whole number from a bound on. -/
def atLeast (least : Nat) : Reader Nat := fun d =>
  (whole d).andThen fun n => if (least : Int) ≤ n then good n.toNat else fail .greaterThanEqual

/-! ## Lists, tables and records -/

/-- Reads every item; `i` is the index of the first. -/
def items {α : Type} (r : Reader α) : Nat → List Datum → Checked (List α)
  | _, [] => good []
  | i, d :: ds => List.cons <$> (r d).under (toString i) <*> items r (i + 1) ds

def list {α : Type} (r : Reader α) : Reader (List α)
  | .list ds => items r 0 ds
  | _ => fail .listType

def tuple {α : Type} (r : Reader α) : Reader (List α)
  | .list ds => items r 0 ds
  | _ => fail .tupleType

/-- Reads every entry of a table. -/
def entries {α : Type} (r : Reader α) : Fields → Checked (List (String × α))
  | [] => good []
  | (k, d) :: fs => (fun a as => (k, a) :: as) <$> (r d).under k <*> entries r fs

def table {α : Type} (r : Reader α) : Reader (List (String × α))
  | .record fs => entries r fs
  | _ => fail .dictType

/-- A record, by its fields. -/
def record {α : Type} (f : Fields → Checked α) : Reader α
  | .record fs => f fs
  | _ => fail .modelType

/-- A field that must be there. -/
def field {α : Type} (fs : Fields) (name : String) (r : Reader α) : Checked α :=
  match fs.get? name with
  | some d => (r d).under name
  | none => (fail .missing : Checked α).under name

/-- A field that may be left out. -/
def fieldOr {α : Type} (fs : Fields) (name : String) (default : α) (r : Reader α) : Checked α :=
  match fs.get? name with
  | some d => (r d).under name
  | none => good default

/-- Refuses fields other than the known ones. -/
def noneBut (known : List String) (fs : Fields) : Checked Unit :=
  match fs.keys.filter fun name => !known.contains name with
  | [] => good ()
  | unknown => .bad (unknown.map fun name => ⟨[name], .extraForbidden⟩)

/-- One of several kinds of record, chosen by the field `kind`. -/
def tagged {α : Type} (choices : List (String × Reader α)) : Reader α
  | .record fs => match Table.get? fs "kind" with
    | none => fail .unionTagNotFound
    | some (.text tag) => match choices.lookup tag with
      | some r => (r (.record fs)).under tag
      | none => fail .unionTagInvalid
    | some _ => fail .unionTagInvalid
  | _ => fail .modelAttributesType

end Check

end BlockStorage
