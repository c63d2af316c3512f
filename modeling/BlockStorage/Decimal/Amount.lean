import BlockStorage.Decimal.Layout

/-!
# Amounts

A number that was given either whole or as a double. Whole amounts are exact and
unbounded; arithmetic that needs a double says so by failing where the whole
number is past the largest one.
-/

namespace BlockStorage

inductive Amount
  | whole (n : Int)
  | real (x : Float)
  deriving Inhabited

namespace Amount

/-- The amount as a double; `none` for a whole number past the largest double. -/
def real? : Amount → Option Float
  | whole n => Decimal.Real.ofInt? n
  | real x => some x

/-- The nearest double, infinite past the largest one. -/
def toReal : Amount → Float
  | whole n => Float.ofInt n
  | real x => x

/-- Whether the first amount is less, compared without rounding; never with a NaN. -/
def lt : Amount → Amount → Bool
  | whole m, whole n => m < n
  | whole m, real y => Decimal.Real.cmpInt? m y = some .lt
  | real x, whole n => Decimal.Real.cmpInt? n x = some .gt
  | real x, real y => x < y

/-- The lesser of two; the first unless the second is less. -/
def min (a b : Amount) : Amount := if b.lt a then b else a

/-- The amount doubled `n` times. For a double the factor `2 ^ n` has to be a double itself. -/
def doubled? (a : Amount) (n : Nat) : Option Amount :=
  match a with
  | whole m => some (whole (m * Nat.pow 2 n))
  | real x => (Decimal.Real.ofInt? (Nat.pow 2 n)).map fun f => real (x * f)

/-- The amount times a double. -/
def scaled? (a : Amount) (f : Float) : Option Float := a.real?.map (· * f)

end Amount

end BlockStorage
