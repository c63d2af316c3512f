import BlockStorage.Decimal.Shortest

/-!
# Numbers as text

Two ways to write a double: with the fewest digits that read back (`text`), and
with a fixed number of places (`fixed`). `Layout` holds the choices of the first
way that are convention and not arithmetic.
-/

namespace BlockStorage.Decimal

/-- How the shortest decimal of a double is laid out. -/
structure Layout where
  /-- Positional for exponents of the leading digit from here on. -/
  leastPositional : Int
  /-- Scientific for exponents of the leading digit from here on. -/
  leastScientific : Int
  /-- Least number of digits of a written exponent. -/
  exponentDigits : Nat
  infinity : String
  notANumber : String

/-- Positional from `1e-4` up to below `1e16`, the exponent with a sign and two digits. -/
def Layout.plain : Layout := ⟨-4, 16, 2, "inf", "nan"⟩

/-- Pads a digit string with zeros on the left. -/
def padLeft (width : Nat) (s : String) : String :=
  String.ofList (List.replicate (width - s.length) '0') ++ s

/-- Places the point of `digits · 10 ^ exponent` and always writes at least one place. -/
def positional (digits : String) (exponent : Int) : String :=
  let ds := digits.toList
  match exponent with
  | .ofNat e => digits ++ String.ofList (List.replicate e '0') ++ ".0"
  | .negSucc e =>
    let places := e + 1
    if places < ds.length then
      String.ofList (ds.take (ds.length - places)) ++ "."
        ++ String.ofList (ds.drop (ds.length - places))
    else
      "0." ++ padLeft places digits

/-- `D.DDDe±NN`, without a point for a single digit. -/
def scientific (layout : Layout) (digits : String) (lead : Int) : String :=
  let mantissa := match digits.toList with
    | [] => "0"
    | [d] => String.ofList [d]
    | d :: rest => String.ofList (d :: '.' :: rest)
  let sign := if lead < 0 then "-" else "+"
  mantissa ++ "e" ++ sign ++ padLeft layout.exponentDigits (toString lead.natAbs)

/-- The shortest text of a double in a layout. -/
def write (layout : Layout) (x : Float) : String :=
  match Real.decode x with
  | .notANumber => layout.notANumber
  | .infinite negative => (if negative then "-" else "") ++ layout.infinity
  | .finite negative m q =>
    let s := Shortest.ofBinary m q
    let digits := toString s.digits
    let lead := s.exponent + digits.length - 1
    let body :=
      if layout.leastPositional ≤ lead ∧ lead < layout.leastScientific then
        positional digits s.exponent
      else
        scientific layout digits lead
    (if negative then "-" else "") ++ body

/-- The text of a double with the fewest digits that read back. -/
def text (x : Float) : String := write .plain x

/-- `num / den` rounded to the nearest natural number, ties to even. -/
def roundEven (num den : Nat) : Nat :=
  let q := num / den
  let r := num % den
  if 2 * r < den then q
  else if den < 2 * r then q + 1
  else if q % 2 = 0 then q else q + 1

/-- The whole number nearest to a double, ties to even; `none` for an infinity or a NaN. -/
def nearest? (x : Float) : Option Int :=
  match Real.decode x with
  | .finite negative m q =>
    let n : Int := roundEven (m * Nat.pow 2 (Shortest.up q)) (Nat.pow 2 (Shortest.up (-q)))
    some (if negative then -n else n)
  | _ => none

/-- A natural number of units `10 ^ -places` with its point. -/
def withPlaces (places units : Nat) : String :=
  if places = 0 then toString units else
  let ds := (padLeft (places + 1) (toString units)).toList
  String.ofList (ds.take (ds.length - places)) ++ "."
    ++ String.ofList (ds.drop (ds.length - places))

/-- A double with a fixed number of places, rounded from its exact value, ties to even. -/
def fixed (places : Nat) (x : Float) : String :=
  match Real.decode x with
  | .notANumber => "nan"
  | .infinite negative => if negative then "-inf" else "inf"
  | .finite negative m q =>
    let scaled := m * Nat.pow 2 (Shortest.up q) * Nat.pow 10 places
    let units := roundEven scaled (Nat.pow 2 (Shortest.up (-q)))
    (if negative then "-" else "") ++ withPlaces places units

end BlockStorage.Decimal
