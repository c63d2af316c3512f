import BlockStorage.Decimal.Binary

/-!
# The shortest decimal of a double

Among the decimals that read back as a given double, `shortest` picks one with
the fewest digits and, of those, the one nearest to the double.

A double `m · 2 ^ q` is the nearest double of every real between the midpoints
to its two neighbours, ends included exactly when `m` is even. For one digit,
two digits, and so on, the only candidates are the two points of that decimal
grid around the value, because a grid with a point in the interval has one of
those in it. All of it is exact arithmetic on natural numbers.
-/

namespace BlockStorage.Decimal

/-- The decimal `digits · 10 ^ exponent`. -/
structure Scaled where
  digits : Nat
  exponent : Int
  deriving Repr, DecidableEq

namespace Scaled

/-- Drops trailing zeros of the digits; at most `fuel` of them. -/
def trim : Nat → Scaled → Scaled
  | 0, s => s
  | fuel + 1, s =>
    if s.digits ≠ 0 ∧ s.digits % 10 = 0 then trim fuel ⟨s.digits / 10, s.exponent + 1⟩ else s

end Scaled

namespace Shortest

/-- The positive part of an integer. -/
def up : Int → Nat
  | .ofNat n => n
  | .negSucc _ => 0

/-- The real interval that rounds to `m · 2 ^ q`, in units of `2 ^ (q - 2)`. -/
structure Interval where
  low : Nat
  value : Nat
  high : Nat
  closed : Bool

/-- Below the smallest mantissa of a binade the gap to the next double is half as wide. -/
def Interval.around (m : Nat) (q : Int) : Interval :=
  { low := if m = Nat.pow 2 52 ∧ q ≠ -1074 then 4 * m - 1 else 4 * m - 2
    value := 4 * m
    high := 4 * m + 2
    closed := m % 2 = 0 }

/-- `n · 2 ^ (q - 2) / 10 ^ c` as a fraction: its numerator, for a numerator `n`. -/
def numerator (n : Nat) (q c : Int) : Nat := n * Nat.pow 2 (up q) * Nat.pow 10 (up (-c))

/-- The denominator that goes with `numerator`. -/
def denominator (q c : Int) : Nat := 4 * Nat.pow 2 (up (-q)) * Nat.pow 10 (up c)

/-- The least `p` with `m · 2 ^ q < 10 ^ p`, for `m ≠ 0`, searched near the logarithm. -/
def magnitude (m : Nat) (q : Int) : Int :=
  let guess := (((Nat.log2 m : Int) + q) * 30103) / 100000
  let below (p : Int) : Bool := numerator (4 * m) q p < denominator q p
  if below (guess - 1) then guess - 1
  else if below guess then guess
  else if below (guess + 1) then guess + 1
  else guess + 2

/-- The better of the two points of the grid `10 ^ c` around the value, if one is in the interval.
A tie between the two goes to the even one. -/
def onGrid (i : Interval) (q c : Int) : Option Nat :=
  let den := denominator q c
  let low := numerator i.low q c
  let value := numerator i.value q c
  let high := numerator i.high q c
  let floor := value / den
  let inside (d : Nat) : Bool :=
    if i.closed then low ≤ d * den ∧ d * den ≤ high else low < d * den ∧ d * den < high
  let below := value - floor * den
  let above := (floor + 1) * den - value
  match inside floor, inside (floor + 1) with
  | true, false => some floor
  | false, true => some (floor + 1)
  | true, true =>
    if below < above then some floor
    else if above < below then some (floor + 1)
    else some (if floor % 2 = 0 then floor else floor + 1)
  | false, false => none

/-- The shortest decimal of `m · 2 ^ q`; seventeen digits always suffice. -/
def ofBinary (m : Nat) (q : Int) : Scaled :=
  if m = 0 then ⟨0, 0⟩ else
  let i := Interval.around m q
  let p := magnitude m q
  let found := (List.range 17).findSome? fun (n : Nat) =>
    let c := p - ((n : Int) + 1)
    (onGrid i q c).map fun d => Scaled.mk d c
  (found.getD ⟨numerator i.value q (p - 17) / denominator q (p - 17), p - 17⟩).trim 17

end Shortest

end BlockStorage.Decimal
