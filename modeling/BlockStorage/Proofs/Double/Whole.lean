import BlockStorage.Decimal.Amount
import BlockStorage.Proofs.Double.Order

/-!
# Whole numbers as doubles

A whole number is rounded to a double by way of a product: of the number, or of its
digits shifted, with a power of ten that is one here. A product of two doubles is
finite if its number of ticks stays below the limit.

* `isInf_pack_round_iff`: a rounded number becomes an infinity from the limit on.
* `isSome_ofInt?_iff`: which whole numbers have a double near them. Of the powers of two
  that is up to `2 ^ 1023` (`isSome_ofInt?_two_pow`), and a number has one that is not past
  a finite double (`isSome_ofInt?_of_finite`).
* `isSome_truncate?`: the other way, every finite double has a whole part.
-/

namespace BlockStorage.Double

open Float.Model Float.Model.UnpackedFloat

/-! ## Finite doubles -/

/-- The exponent bits of a finite double are not all set. -/
theorem exponent_ne_of_isFinite {x : Float} (h : x.isFinite = true) :
    x.toBits.toNat / 2 ^ 52 % 2 ^ 11 ≠ 2047 := by
  intro hbits
  have hexponent : @unpackExponent .binary64 x.toModel.toBits.toBitVec = -1#11 := by
    refine BitVec.eq_of_toNat_eq ?_
    rw [unpackExponent, BitVec.toNat_cast, BitVec.extractLsb_toNat, Nat.shiftRight_eq_div_pow]
    exact hbits
  have hfinite : x.toModel.unpack.isFinite = true := h
  rw [Float.Model.unpack, UnpackedFloat.unpack] at hfinite
  dsimp only at hfinite
  rw [if_pos hexponent] at hfinite
  split at hfinite <;> cases hfinite

theorem decode_of_isFinite {x : Float} (h : x.isFinite = true) :
    ∃ s m e, Decimal.Real.decode x = .finite s m e := by
  have hbits : ¬ x.toBits.toNat / Nat.pow 2 52 % Nat.pow 2 11 = 2047 := exponent_ne_of_isFinite h
  rw [Decimal.Real.decode, if_neg hbits]
  split <;> exact ⟨_, _, _, rfl⟩

theorem isInf_pack_finite_iff (s : Sign) {m : Nat} {e : Int} (h : 0 < m) (fits : Fits m e) :
    (Float.Model.pack (.finite s m e h)).isInf = true ↔ limit ≤ m * 2 ^ level e := by
  rw [Float.Model.isInf, unpack_pack_finite s h fits]
  by_cases hmost : e ≤ 971
  · rw [if_pos hmost]
    exact iff_of_false Bool.false_ne_true (Nat.not_le.mpr (fits.between h hmost).2)
  · rw [if_neg hmost]
    exact iff_of_true rfl (fits.limit_le hmost)

/-- A product that is rounded: `m` has at least 53 digits, as products of mantissas do. -/
theorem isInf_pack_round_iff (s : Sign) {m : Nat} {e : Int} (hm : 2 ^ 52 ≤ m) (he : -1074 ≤ e) :
    (Float.Model.pack (roundWithAccuracy .binary64 s m e .exact)).isInf = true ↔
      limit ≤ nearest (m * 2 ^ level e) := by
  have hpos : 0 < m := Nat.lt_of_lt_of_le (Nat.two_pow_pos 52) hm
  have hle : level e ≤ excess (m * 2 ^ level e) := by
    have hlog : 52 ≤ m.log2 := (Nat.le_log2 (Nat.ne_of_gt hpos)).mpr hm
    rw [excess, log2_mul_two_pow hpos]
    omega
  obtain ⟨m', e', h, heq, hfits, hticks⟩ := roundWithAccuracy_ticks s hpos he hle
  rw [heq, isInf_pack_finite_iff s h hfits, hticks]

/-- A number that has few digits is far below the limit. -/
theorem nearest_lt_limit {n : Nat} (h : n < 2 ^ 53) : nearest (n * 2 ^ level 0) < limit := by
  calc nearest (n * 2 ^ level 0) = n * 2 ^ level 0 := nearest_of_fits h _
    _ ≤ n * 2 ^ level 971 :=
      Nat.mul_le_mul_left n (Nat.pow_le_pow_right (by decide) (by unfold level; omega))
    _ < 2 ^ 53 * 2 ^ level 971 := Nat.mul_lt_mul_of_pos_right h (Nat.two_pow_pos _)
    _ = limit := limit_eq.symm

/-- One as a double. -/
theorem unpack_one : Float.exactlyRepresentablePowersOfTen[0].toModel.unpack =
    .finite .positive (2 ^ 52) (-52) (Nat.two_pow_pos 52) := rfl

/-- A rounded number times one is the same number of ticks. -/
theorem isInf_pack_mul_one {n : Nat} (hn : 0 < n) {m : Nat} {e : Int} {h : 0 < m} (fits : Fits m e)
    (hticks : m * 2 ^ level e = n * 2 ^ level 0)
    (hlimit : nearest (n * 2 ^ level 0) < limit) :
    (Float.Model.pack (UnpackedFloat.mul .binary64 (.finite .positive m e h)
      (.finite .positive (2 ^ 52) (-52) (Nat.two_pow_pos 52)))).isInf = false := by
  have hleast : -52 ≤ e := by
    have hlevel : 2 ^ level 0 < 2 ^ (53 + level e) := by
      calc 2 ^ level 0 ≤ n * 2 ^ level 0 := Nat.le_mul_of_pos_left _ hn
        _ = m * 2 ^ level e := hticks.symm
        _ < 2 ^ 53 * 2 ^ level e := Nat.mul_lt_mul_of_pos_right fits.lt (Nat.two_pow_pos _)
        _ = 2 ^ (53 + level e) := (Nat.pow_add ..).symm
    have hlt := (Nat.pow_lt_pow_iff_right (by decide)).mp hlevel
    unfold level at hlt
    omega
  have hsame : m * 2 ^ 52 * 2 ^ level (e + -52) = n * 2 ^ level 0 := by
    rw [← hticks, Nat.mul_assoc, ← Nat.pow_add]
    congr 2
    unfold level
    omega
  rw [← Bool.not_eq_true, UnpackedFloat.mul]
  refine mt (isInf_pack_round_iff _ (Nat.le_mul_of_pos_left _ h) (by omega)).mp ?_
  rw [hsame]
  exact Nat.not_le.mpr hlimit

/-- A number that has few digits is exact, and then multiplied by one. -/
theorem isInf_ofNat_of_lt {n : Nat} (h : n < 2 ^ 53) : (Float.ofNat n).isInf = false := by
  have hof : (Float.ofNat n).isInf = (Float.Model.pack (UnpackedFloat.mul .binary64
      (Float.Model.pack (UnpackedFloat.normalize .binary64 n.toUInt64.toNat 0 .positive)).unpack
      (.finite .positive (2 ^ 52) (-52) (Nat.two_pow_pos 52)))).isInf := by
    rw [← unpack_one]
    show (Float.ofScientific n false 0).isInf = _
    rw [Float.ofScientific, dif_pos ⟨h, by decide⟩]
    rfl
  have hsize : n.toUInt64.toNat = n := by
    rw [Nat.toUInt64_eq, UInt64.toNat_ofNat', Nat.mod_eq_of_lt (by omega)]
  rw [hof, hsize]
  rcases Nat.eq_zero_or_pos n with rfl | hn
  · rfl
  · have hround : UnpackedFloat.normalize .binary64 n 0 .positive =
        UnpackedFloat.round .binary64 .positive n 0 := by
      rw [UnpackedFloat.normalize, Int.compare_eq_gt.mpr (by omega)]
      rfl
    have hlimit := nearest_lt_limit h
    obtain ⟨m, e, hm, heq, fits, hticks⟩ := round_ticks .positive hn (e := 0) (by decide)
    have hmost : e ≤ 971 := by
      by_contra hmore
      exact absurd (hticks ▸ hlimit) (Nat.not_lt.mpr (fits.limit_le hmore))
    rw [hround, heq, unpack_pack_finite _ hm fits, if_pos hmost]
    exact isInf_pack_mul_one hn fits (hticks.trans (nearest_of_fits h _)) hlimit

/-- Any other is shifted first, and keeps its number of ticks. -/
theorem isInf_ofNat_of_ge {n : Nat} (h : ¬ n < 2 ^ 53) :
    (Float.ofNat n).isInf = true ↔ limit ≤ nearest (n * 2 ^ level 0) := by
  have hof : (Float.ofNat n).isInf = (Float.Model.pack (roundWithAccuracy .binary64 .positive
      (n <<< 53 * 1) (-53 + 0) .exact)).isInf := by
    show (Float.ofScientific n false 0).isInf = _
    rw [Float.ofScientific, dif_neg (by omega)]
    show (Float.Model.pack (UnpackedFloat.ofScientific .binary64 n 0)).isInf = _
    rw [UnpackedFloat.ofScientific, dif_neg (by omega), if_neg (by decide), if_neg ?_,
      if_pos (by decide)]
    · rfl
    · show ¬ (0 : Int) < -((2 ^ 11 : Int) + n.log2)
      omega
  have hshift : n <<< 53 * 1 * 2 ^ level (-53 + 0) = n * 2 ^ level 0 := by
    rw [Nat.mul_one, Nat.shiftLeft_eq, Nat.mul_assoc, ← Nat.pow_add,
      show 53 + level (-53 + 0) = level 0 by decide]
  rw [hof, ← hshift]
  refine isInf_pack_round_iff _ ?_ (by decide)
  rw [Nat.mul_one, Nat.shiftLeft_eq]
  omega

theorem isInf_ofNat_iff (n : Nat) :
    (Float.ofNat n).isInf = true ↔ limit ≤ nearest (n * 2 ^ level 0) := by
  by_cases h : n < 2 ^ 53
  · rw [isInf_ofNat_of_lt h]
    exact iff_of_false Bool.false_ne_true (Nat.not_le.mpr (nearest_lt_limit h))
  · exact isInf_ofNat_of_ge h

/-- **A whole number has a double near it exactly if it is not rounded up to the limit.** -/
theorem isSome_ofInt?_iff (n : Nat) :
    (Decimal.Real.ofInt? n).isSome = true ↔ nearest (n * 2 ^ level 0) < limit := by
  have hinf : (Float.ofInt n).isInf = true ↔ limit ≤ nearest (n * 2 ^ level 0) := isInf_ofNat_iff n
  rw [Decimal.Real.ofInt?, ← Nat.not_le, ← hinf]
  split
  · next h => exact iff_of_false Bool.false_ne_true (not_not_intro h)
  · next h => exact iff_of_true rfl h

/-- The powers of two that have one. -/
theorem isSome_ofInt?_two_pow (k : Nat) :
    (Decimal.Real.ofInt? (2 ^ k : Nat)).isSome = true ↔ k ≤ 1023 := by
  rw [isSome_ofInt?_iff, ← Nat.one_mul (2 ^ k), Nat.mul_assoc, ← Nat.pow_add,
    nearest_of_fits (by decide), Nat.one_mul, limit_eq, ← Nat.pow_add,
    Nat.pow_lt_pow_iff_right (by decide)]
  unfold level
  omega

/-- A double is doubled by way of the double near the power of two. -/
theorem doubled?_real (x : Float) (k : Nat) :
    (Amount.real x).doubled? k =
      (Decimal.Real.ofInt? (2 ^ k : Nat)).map fun f => .real (x * f) := rfl

/-! ## Whole parts -/

/-- A finite double has a whole part. -/
theorem isSome_truncate? {x : Float} (h : x.isFinite = true) :
    (Decimal.Real.truncate? x).isSome = true := by
  obtain ⟨s, m, e, hx⟩ := decode_of_isFinite h
  rw [Decimal.Real.truncate?, hx]
  rfl

end BlockStorage.Double
