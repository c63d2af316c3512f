import BlockStorage.Decimal.Layout

/-!
# A fixed number of significant digits

Two ways to write a double with as many digits as asked for, rounded from its
exact value, ties to even.

* `exponential`: one digit before the point, and always an exponent.
* `general`: positional for middling sizes and exponential for the others,
  without zeros at the end.

A *bare* point, one that no digit follows, is written only on demand.
-/

namespace BlockStorage.Decimal

/-- The first `n` digits of `m · 2 ^ q` as one number, and the exponent of the first of them. -/
def significant (n m : Nat) (q : Int) : Nat × Int :=
  if m = 0 then (0, 0) else
  let p := Shortest.magnitude m q
  let units := roundEven (Shortest.numerator (4 * m) q (p - n)) (Shortest.denominator q (p - n))
  if units = Nat.pow 10 n then (Nat.pow 10 (n - 1), p) else (units, p - 1)

/-- Digits with a point after the first `whole` of them. -/
def pointed (bare : Bool) (whole : Nat) (ds : List Char) : String :=
  let places := ds.drop whole
  String.ofList (ds.take whole) ++ (if places.isEmpty && !bare then "" else ".")
    ++ String.ofList places

/-- An exponent with its sign and two digits at least. -/
def exponentText (e : Int) : String :=
  "e" ++ (if e < 0 then "-" else "+") ++ padLeft 2 (toString e.natAbs)

/-- A double with one digit before the point and `places` after it. -/
def exponential (places : Nat) (bare : Bool) (x : Float) : String :=
  match Real.decode x with
  | .notANumber => "nan"
  | .infinite negative => if negative then "-inf" else "inf"
  | .finite negative m q =>
    let (units, lead) := significant (places + 1) m q
    (if negative then "-" else "")
      ++ pointed bare 1 (padLeft (places + 1) (toString units)).toList ++ exponentText lead

/-- Drops zeros at the end, but not the first digit. -/
def withoutZeros : List Char → List Char
  | [] => []
  | d :: ds => d :: (ds.reverse.dropWhile (· = '0')).reverse

/-- A double with `digits` significant digits. Zeros at the end are kept only on demand, together
with a bare point. -/
def general (digits : Nat) (full : Bool) (x : Float) : String :=
  let digits := max 1 digits
  match Real.decode x with
  | .notANumber => "nan"
  | .infinite negative => if negative then "-inf" else "inf"
  | .finite negative m q =>
    let (units, lead) := significant digits m q
    let ds := (padLeft digits (toString units)).toList
    let ds := if full then ds else withoutZeros ds
    let body :=
      if lead < -4 || (digits : Int) ≤ lead then pointed full 1 ds ++ exponentText lead
      else match lead with
        | .ofNat whole =>
          pointed full (whole + 1) (ds ++ List.replicate (whole + 1 - ds.length) '0')
        | .negSucc zeros => pointed full 1 ('0' :: List.replicate zeros '0' ++ ds)
    (if negative then "-" else "") ++ body

end BlockStorage.Decimal
