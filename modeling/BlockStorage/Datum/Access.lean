import BlockStorage.Fault

/-!
# Getting at untyped data

Responses of a provider are used without being checked first: what is not there
or not of the kind that is needed fails at the place of its use, and the rest is
never looked at.

* `Datum.key`: an entry that must be there.
* `Datum.keyOr`: an entry that may be missing.
* `Datum.each`: the items to go through.
* `Datum.asReal`, `Datum.asWhole`: a number, also one in a text.
-/

namespace BlockStorage

namespace Amount

/-- The amount cut off toward zero. -/
def truncated (a : Amount) : Except Fault Int :=
  match a with
  | whole n => .ok n
  | real x => match Decimal.Real.truncate? x with
    | some n => .ok n
    | none => .error (.misuse (if x.isNaN then .undefinedWhole else .infiniteWhole))

end Amount

namespace Datum

/-- The value of a key that must be there. -/
def key (d : Datum) (name : String) : Except Fault Datum :=
  match d with
  | record fs => match fs.lookup name with
    | some v => .ok v
    | none => .error (.misuse (.missingKey name))
  | d => .error (.misuse (.notSubscriptable d.kindName))

/-- The value of a key that may be missing. -/
def keyOr (d : Datum) (name : String) (default : Datum) : Except Fault Datum :=
  match d with
  | record fs => .ok ((fs.lookup name).getD default)
  | d => .error (.misuse (.notRecord d.kindName "get"))

/-- What there is to go through: items of a list, letters of a text, keys of a record. -/
def each : Datum → Except Fault (List Datum)
  | list ds => .ok ds
  | text s => .ok (s.toList.map fun c => text (String.ofList [c]))
  | record fs => .ok (fs.map fun f => text f.1)
  | d => .error (.misuse (.notIterable d.kindName))

/-- A number as a double. -/
def asReal : Datum → Except Fault Float
  | real x => .ok x
  | bool b => .ok (if b then 1.0 else 0.0)
  | int n => match Decimal.Real.ofInt? n with
    | some x => .ok x
    | none => .error (.misuse .tooLarge)
  | text s => match Decimal.nativeDouble? s with
    | some x => .ok x
    | none => .error (.misuse (.notANumeral s))
  | d => .error (.misuse (.notANumber d.kindName))

/-- A number cut off toward zero. -/
def asWhole : Datum → Except Fault Int
  | int n => .ok n
  | bool b => .ok (if b then 1 else 0)
  | real x => (Amount.real x).truncated
  | text s => match Decimal.nativeWhole? s with
    | some n =>
      if Decimal.digitLimit < Decimal.countDigits s then
        .error (.misuse (.overlongWhole (Decimal.countDigits s)))
      else .ok n
    | none => .error (.misuse (.notAWhole s))
  | d => .error (.misuse (.notWholeKind d.kindName))

/-- A member of a vocabulary, by its value. -/
def asWord {α : Type} [Vocabulary α] (d : Datum) : Except Fault α :=
  let lacks : Except Fault α := .error (.misuse (.notAMember d (Vocabulary.title α)))
  match d with
  | text s => match Vocabulary.ofValue? s with
    | some a => .ok a
    | none => lacks
  | _ => lacks

end Datum

end BlockStorage
