import Mathlib

/-!
# Rounding to a double

Every double is a whole number of ticks of `2 ^ -1074`, so what an operation rounds
is a natural number of ticks. It is cut to 53 binary digits: the digits beyond are
shifted out, the last of them and whether any below was set decide which way to go.

* `rank`: a mantissa and what was shifted out of it, as one number that shifting and
  rounding respect.
* `nearest`: the rounded number of ticks. It is monotone (`nearest_mono`) and keeps
  what fits (`nearest_of_fits`).
* `round_ticks`: `UnpackedFloat.round` takes the nearest number of ticks.
-/

namespace BlockStorage.Double

open Float.Model Float.Model.UnpackedFloat

/-! ## Shifting a mantissa -/

/-- A mantissa with its two residual bits as the digits behind it. -/
def rank (em : ExtendedMantissa) : Nat :=
  4 * em.mantissa + 2 * em.roundBit.toNat + em.stickyBit.toNat

/-- A mantissa out of which nothing has been shifted. -/
def whole (m : Nat) : ExtendedMantissa := .ofMantissaAndAccuracy m .exact

theorem toNat_odd (m : Nat) : (m % 2 != 0).toNat = m % 2 := by
  rcases Nat.mod_two_eq_zero_or_one m with h | h <;> simp [h]

theorem rank_shiftRightOne (em : ExtendedMantissa) :
    rank em.shiftRightOne = 2 * (rank em / 4) + min 1 (rank em % 4) := by
  obtain ⟨m, r, s⟩ := em
  simp only [rank, ExtendedMantissa.shiftRightOne, toNat_odd]
  cases r <;> cases s <;> simp only [Bool.toNat_true, Bool.toNat_false, Bool.or_true,
    Bool.or_false] <;> omega

theorem roundedMantissa_le_of_rank {a b : ExtendedMantissa} (h : rank a ≤ rank b) :
    a.roundedMantissa ≤ b.roundedMantissa := by
  obtain ⟨m, r, s⟩ := a
  obtain ⟨m', r', s'⟩ := b
  cases r <;> cases s <;> cases r' <;> cases s' <;>
    simp only [rank, Bool.toNat_true, Bool.toNat_false, ExtendedMantissa.roundedMantissa,
      ExtendedMantissa.accuracy, Accuracy.roundToNearestEven] at h ⊢ <;> omega

theorem roundedMantissa_bounds (em : ExtendedMantissa) :
    em.mantissa ≤ em.roundedMantissa ∧ em.roundedMantissa ≤ em.mantissa + 1 := by
  obtain ⟨m, r, s⟩ := em
  cases r <;> cases s <;>
    simp only [ExtendedMantissa.roundedMantissa, ExtendedMantissa.accuracy,
      Accuracy.roundToNearestEven] <;> omega

theorem shiftRight_zero (em : ExtendedMantissa) : em >>> 0 = em := rfl

theorem shiftRight_succ (em : ExtendedMantissa) (k : Nat) :
    em >>> (k + 1) = (em >>> k).shiftRightOne := rfl

theorem shiftRight_add (em : ExtendedMantissa) (j k : Nat) : em >>> (j + k) = em >>> j >>> k := by
  induction k with
  | zero => rfl
  | succ k ih => rw [← Nat.add_assoc, shiftRight_succ, shiftRight_succ, ih]

theorem rank_shiftRight_le {a b : ExtendedMantissa} (h : rank a ≤ rank b) (k : Nat) :
    rank (a >>> k) ≤ rank (b >>> k) := by
  induction k with
  | zero => exact h
  | succ k ih =>
    rw [shiftRight_succ, shiftRight_succ, rank_shiftRightOne, rank_shiftRightOne]
    omega

theorem mantissa_shiftRight (em : ExtendedMantissa) (k : Nat) :
    (em >>> k).mantissa = em.mantissa / 2 ^ k := by
  induction k with
  | zero => rw [shiftRight_zero, Nat.pow_zero, Nat.div_one]
  | succ k ih =>
    rw [shiftRight_succ, Nat.pow_succ, ← Nat.div_div_eq_div_mul, ← ih]
    rfl

/-- Zeros that are shifted out leave no trace. -/
theorem whole_mul_shiftRight (m k : Nat) : whole (m * 2 ^ k) >>> k = whole m := by
  induction k generalizing m with
  | zero => rw [Nat.pow_zero, Nat.mul_one, shiftRight_zero]
  | succ k ih =>
    have hdouble : whole (m * 2 ^ (k + 1)) >>> k = whole (m * 2) := by
      rw [Nat.pow_succ', ← Nat.mul_assoc, ih]
    rw [shiftRight_succ, hdouble]
    simp [whole, ExtendedMantissa.ofMantissaAndAccuracy, ExtendedMantissa.shiftRightOne]

/-! ## Dividing with rounding -/

/-- A number divided by `2 ^ k` and rounded, a tie to the even side. -/
def quotient (n k : Nat) : Nat := (whole n >>> k).roundedMantissa

@[simp] theorem quotient_zero (n : Nat) : quotient n 0 = n := rfl

theorem quotient_bounds (n k : Nat) : n / 2 ^ k ≤ quotient n k ∧ quotient n k ≤ n / 2 ^ k + 1 := by
  have h := roundedMantissa_bounds (whole n >>> k)
  rwa [mantissa_shiftRight] at h

theorem quotient_mono {n n' : Nat} (h : n ≤ n') (k : Nat) : quotient n k ≤ quotient n' k := by
  refine roundedMantissa_le_of_rank (rank_shiftRight_le ?_ k)
  simp only [rank, whole, ExtendedMantissa.ofMantissaAndAccuracy, Bool.toNat_false]
  omega

theorem quotient_mul (m j k : Nat) : quotient (m * 2 ^ j) (j + k) = quotient m k := by
  rw [quotient, shiftRight_add, whole_mul_shiftRight, quotient]

theorem quotient_mul_self (m k : Nat) : quotient (m * 2 ^ k) k = m := quotient_mul m k 0

/-! ## The nearest number of ticks -/

/-- How many binary digits a number has beyond the 53 of a mantissa. -/
def excess (n : Nat) : Nat := n.log2 - 52

/-- A number of ticks, rounded to 53 binary digits. -/
def nearest (n : Nat) : Nat := quotient n (excess n) * 2 ^ excess n

@[simp] theorem nearest_zero : nearest 0 = 0 := rfl

theorem div_excess_lt (n : Nat) : n / 2 ^ excess n < 2 ^ 53 := by
  rw [Nat.div_lt_iff_lt_mul (Nat.two_pow_pos _), ← Nat.pow_add]
  exact Nat.lt_of_lt_of_le Nat.lt_log2_self
    (Nat.pow_le_pow_right (by decide) (by unfold excess; omega))

theorem le_div_excess {n : Nat} (h : excess n ≠ 0) : 2 ^ 52 ≤ n / 2 ^ excess n := by
  have hn : n ≠ 0 := by rintro rfl; exact h rfl
  rw [Nat.le_div_iff_mul_le (Nat.two_pow_pos _), ← Nat.pow_add]
  exact Nat.le_trans (Nat.pow_le_pow_right (by decide) (by unfold excess at h ⊢; omega))
    (Nat.log2_self_le hn)

theorem excess_mono {n n' : Nat} (h : n ≤ n') : excess n ≤ excess n' := by
  rcases Nat.eq_zero_or_pos n with rfl | hn
  · exact Nat.zero_le _
  · have hlog : n.log2 ≤ n'.log2 :=
      (Nat.le_log2 (by omega)).mpr (Nat.le_trans (Nat.log2_self_le (by omega)) h)
    unfold excess
    omega

theorem nearest_mono {n n' : Nat} (h : n ≤ n') : nearest n ≤ nearest n' := by
  rcases Nat.eq_or_lt_of_le (excess_mono h) with heq | hlt
  · rw [nearest, nearest, ← heq]
    exact Nat.mul_le_mul_right _ (quotient_mono h _)
  · -- the power of two between them is not passed from either side
    have hupper : quotient n (excess n) ≤ 2 ^ 53 := by
      have := quotient_bounds n (excess n)
      have := div_excess_lt n
      omega
    have hlower : 2 ^ 52 ≤ quotient n' (excess n') :=
      Nat.le_trans (le_div_excess (by omega)) (quotient_bounds n' (excess n')).1
    calc nearest n ≤ 2 ^ 53 * 2 ^ excess n := Nat.mul_le_mul_right _ hupper
      _ = 2 ^ 52 * 2 ^ (excess n + 1) := by rw [Nat.pow_succ 2 (excess n)]; ring
      _ ≤ 2 ^ 52 * 2 ^ excess n' :=
        Nat.mul_le_mul_left _ (Nat.pow_le_pow_right (by decide) hlt)
      _ ≤ nearest n' := Nat.mul_le_mul_right _ hlower

theorem log2_mul_two_pow {m : Nat} (hm : 0 < m) (k : Nat) : (m * 2 ^ k).log2 = m.log2 + k := by
  rw [Nat.log2_eq_iff (Nat.ne_of_gt (Nat.mul_pos hm (Nat.two_pow_pos k)))]
  have hlower := Nat.log2_self_le (Nat.ne_of_gt hm)
  have hupper : m < 2 ^ (m.log2 + 1) := Nat.lt_log2_self
  refine ⟨?_, ?_⟩
  · rw [Nat.pow_add]
    exact Nat.mul_le_mul_right _ hlower
  · rw [Nat.add_right_comm, Nat.pow_add]
    exact Nat.mul_lt_mul_of_pos_right hupper (Nat.two_pow_pos k)

/-- What fits into a mantissa is not rounded. -/
theorem nearest_of_fits {m : Nat} (hm : m < 2 ^ 53) (k : Nat) :
    nearest (m * 2 ^ k) = m * 2 ^ k := by
  rcases Nat.eq_zero_or_pos m with rfl | hpos
  · rw [Nat.zero_mul, nearest_zero]
  · have hlog : m.log2 < 53 := (Nat.log2_lt (by omega)).mpr hm
    have hk : excess (m * 2 ^ k) ≤ k := by
      rw [excess, log2_mul_two_pow hpos]
      omega
    obtain ⟨j, hj⟩ := Nat.exists_eq_add_of_le' hk
    rw [nearest]
    generalize excess (m * 2 ^ k) = x at hj ⊢
    rw [hj, Nat.pow_add, ← Nat.mul_assoc, quotient_mul_self]

theorem nearest_pos {n : Nat} (h : 0 < n) : 0 < nearest n :=
  Nat.lt_of_lt_of_le (by rw [nearest_of_fits (m := 1) (by decide) 0]; decide)
    (nearest_mono (show 1 * 2 ^ 0 ≤ n by omega))

/-! ## What rounding a finite number gives -/

/-- The position of an exponent above that of a tick. -/
def level (e : Int) : Nat := (e + 1074).toNat

/-- A mantissa and an exponent as a double has them. -/
structure Fits (m : Nat) (e : Int) : Prop where
  lt : m < 2 ^ 53
  least : -1074 ≤ e
  /-- Below the least exponent there is nothing to shift the mantissa up for. -/
  normal : 2 ^ 52 ≤ m ∨ e = -1074

theorem targetExponent_eq {m : Nat} {e : Int} (hm : 0 < m) (he : -1074 ≤ e) :
    Format.binary64.targetExponent (totalExponent m e) =
      (excess (m * 2 ^ level e) : Int) - 1074 := by
  have htarget : Format.binary64.targetExponent (totalExponent m e) =
      max (totalExponent m e - 53) (-1074) := rfl
  rw [htarget, totalExponent, excess, log2_mul_two_pow hm, level]
  omega

/-- Rounding may carry into a 54th digit, which is then shifted out again. -/
theorem shiftToTargetExponent_of_le {m : Nat} {e : Int} (hm : m ≤ 2 ^ 53) (he : -1074 ≤ e) :
    shiftToTargetExponent .binary64 m e .exact =
      if m < 2 ^ 53 then (whole m, e) else (whole (2 ^ 52), e + 1) := by
  have htarget : Format.binary64.targetExponent (totalExponent m e) =
      max ((m.log2 : Int) + 1 + e - 53) (-1074) := rfl
  rw [shiftToTargetExponent, htarget, shiftToExponent]
  split
  · next hlt =>
    have hlog : m.log2 < 53 := by
      rcases Nat.eq_zero_or_pos m with rfl | hpos
      · decide
      · exact (Nat.log2_lt (by omega)).mpr hlt
    have hnone : (max ((m.log2 : Int) + 1 + e - 53) (-1074) - e).toNat = 0 := by omega
    simp only [hnone, Int.natCast_zero, Int.add_zero]
    rfl
  · next hge =>
    obtain rfl : m = 2 ^ 53 := by omega
    have hone : (max (((2 ^ 53 : Nat).log2 : Int) + 1 + e - 53) (-1074) - e).toNat = 1 := by
      rw [Nat.log2_two_pow]
      omega
    simp only [hone]
    rfl

theorem roundWithAccuracy_of_shifts (s : Sign) {m m' : Nat} {e e₁ e' : Int}
    {em : ExtendedMantissa} (hm' : 0 < m')
    (hfirst : shiftToTargetExponent .binary64 m e .exact = (em, e₁))
    (hcarry : shiftToTargetExponent .binary64 em.roundedMantissa e₁ .exact = (whole m', e')) :
    roundWithAccuracy .binary64 s m e .exact = .finite s m' e' hm' := by
  rw [roundWithAccuracy, hfirst]
  simp only [hcarry]
  exact dif_neg (Nat.ne_of_gt hm')

/-- A mantissa that has no more digits to the right than it needs. -/
theorem roundWithAccuracy_ticks (s : Sign) {m : Nat} {e : Int} (hm : 0 < m) (he : -1074 ≤ e)
    (hle : level e ≤ excess (m * 2 ^ level e)) :
    ∃ m' e' h, roundWithAccuracy .binary64 s m e .exact = .finite s m' e' h ∧ Fits m' e' ∧
      m' * 2 ^ level e' = nearest (m * 2 ^ level e) := by
  have hpos : 0 < nearest (m * 2 ^ level e) :=
    nearest_pos (Nat.mul_pos hm (Nat.two_pow_pos _))
  have htarget := targetExponent_eq hm he
  have hbounds := quotient_bounds (m * 2 ^ level e) (excess (m * 2 ^ level e))
  have hupper := div_excess_lt (m * 2 ^ level e)
  have hlower := @le_div_excess (m * 2 ^ level e)
  have hshift := quotient_mul m (level e)
  rw [nearest] at hpos ⊢
  generalize m * 2 ^ level e = n at *
  generalize excess n = x at *
  have hfirst : shiftToTargetExponent .binary64 m e .exact =
      (whole m >>> (x - level e), (x : Int) - 1074) := by
    rw [shiftToTargetExponent, htarget, shiftToExponent]
    unfold level at hle ⊢
    rw [show ((x : Int) - 1074 - e).toNat = x - (e + 1074).toNat by omega]
    refine congrArg (Prod.mk _) ?_
    omega
  have hquotient : (whole m >>> (x - level e)).roundedMantissa = quotient n x := by
    rw [← Nat.add_sub_of_le hle, hshift]
    simp [quotient]
  have hlevel : level ((x : Int) - 1074) = x := by unfold level; omega
  have hcarry := shiftToTargetExponent_of_le (m := quotient n x) (e := (x : Int) - 1074)
    (by omega) (by omega)
  rw [← hquotient] at hcarry hbounds hpos ⊢
  by_cases hlt : (whole m >>> (x - level e)).roundedMantissa < 2 ^ 53
  · rw [if_pos hlt] at hcarry
    refine ⟨_, _, Nat.pos_of_mul_pos_right hpos, roundWithAccuracy_of_shifts s _ hfirst hcarry,
      ⟨hlt, by omega, by omega⟩, by rw [hlevel]⟩
  · rw [if_neg hlt] at hcarry
    have hcarried : (whole m >>> (x - level e)).roundedMantissa = 2 ^ 53 := by omega
    refine ⟨_, _, Nat.two_pow_pos 52, roundWithAccuracy_of_shifts s _ hfirst hcarry,
      ⟨by decide, by omega, .inl (Nat.le_refl _)⟩, ?_⟩
    rw [hcarried, show level ((x : Int) - 1074 + 1) = x + 1 by unfold level; omega,
      Nat.pow_succ 2 x]
    ring

/-- Rounding takes the nearest number of ticks. -/
theorem round_ticks (s : Sign) {m : Nat} {e : Int} (hm : 0 < m) (he : -1074 ≤ e) :
    ∃ m' e' h, UnpackedFloat.round .binary64 s m e = .finite s m' e' h ∧ Fits m' e' ∧
      m' * 2 ^ level e' = nearest (m * 2 ^ level e) := by
  have htarget := targetExponent_eq hm he
  generalize hx : excess (m * 2 ^ level e) = x at htarget
  rw [UnpackedFloat.round, htarget, decreaseExponent]
  have hticks : (m <<< (e - ((x : Int) - 1074)).toNat) *
      2 ^ level (e - (e - ((x : Int) - 1074)).toNat) = m * 2 ^ level e := by
    rw [Nat.shiftLeft_eq, Nat.mul_assoc, ← Nat.pow_add]
    congr 2
    unfold level
    omega
  rw [← hticks] at hx ⊢
  refine roundWithAccuracy_ticks s ?_ ?_ ?_
  · rw [Nat.shiftLeft_eq]
    exact Nat.mul_pos hm (Nat.two_pow_pos _)
  · omega
  · rw [hx]
    unfold level
    omega

end BlockStorage.Double
