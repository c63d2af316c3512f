/-!
# Doubles as exact numbers

Every finite double is `± m · 2 ^ q` with natural `m` and integer `q`. This file
decodes a double into that form and does with it, exactly, what the rest of the
library needs: comparing a whole number with a double, cutting a double off
toward zero, rounding a whole number to the nearest double.

* `Real.decode`: the form of a double, read off its bits.
* `Real.truncate?`: the whole part, for finite doubles.
* `Real.ofInt?`: the nearest double of a whole number, ties to even; `none` past
  the largest one.
* `Real.cmpInt?`: how a whole number compares with a double, without rounding.
-/

namespace BlockStorage.Decimal

/-- What the bits of a double stand for. A finite one is `± mantissa · 2 ^ exponent`. -/
inductive Real
  | notANumber
  | infinite (negative : Bool)
  | finite (negative : Bool) (mantissa : Nat) (exponent : Int)
  deriving Repr, DecidableEq

namespace Real

/-- Reads the sign, the eleven exponent bits and the fifty-two fraction bits. -/
def decode (x : Float) : Real :=
  let bits := x.toBits.toNat
  let negative := bits / Nat.pow 2 63 == 1
  let biased : Nat := bits / Nat.pow 2 52 % Nat.pow 2 11
  let fraction : Nat := bits % Nat.pow 2 52
  if biased = 2047 then
    if fraction = 0 then infinite negative else notANumber
  else if biased = 0 then
    finite negative fraction (-1074)
  else
    finite negative (Nat.pow 2 52 + fraction) ((biased : Int) - 1075)

/-- `mantissa · 2 ^ exponent`, cut off toward zero. -/
def wholePart (mantissa : Nat) : Int → Nat
  | .ofNat e => mantissa * Nat.pow 2 e
  | .negSucc e => mantissa / Nat.pow 2 (e + 1)

/-- The double cut off toward zero; `none` for an infinity or a NaN. -/
def truncate? (x : Float) : Option Int :=
  match decode x with
  | finite negative m e =>
    let n : Int := wholePart m e
    some (if negative then -n else n)
  | _ => none

/-- Whether a finite double has nothing after the point. -/
def isWhole (x : Float) : Bool :=
  match decode x with
  | finite _ m (.negSucc e) => m % Nat.pow 2 (e + 1) == 0
  | finite _ _ (.ofNat _) => true
  | _ => false

/-- The double nearest to a whole number, ties to even; `none` where that would be an infinity. -/
def ofInt? (n : Int) : Option Float :=
  let x := Float.ofInt n
  if x.isInf then none else some x

/-- Compares a whole number with a double exactly; `none` if the double is a NaN. -/
def cmpInt? (n : Int) (x : Float) : Option Ordering :=
  match decode x with
  | notANumber => none
  | infinite negative => some (if negative then .gt else .lt)
  | finite negative m e =>
    let signed : Int := if negative then -m else m
    match e with
    | .ofNat k => some (compare n (signed * Nat.pow 2 k))
    | .negSucc k => some (compare (n * Nat.pow 2 (k + 1)) signed)

end Real

end BlockStorage.Decimal
