import BlockStorage.Proofs.Double.Whole

/-!
# The number that a double is

A finite double is a whole number of ticks, so it is a fraction of `2 ^ 1074`. Its
decoded form tells the same number, and cutting that off toward zero is taking the
floor, for what is more than zero.

* `count_of_decode`: the ticks of a decoded double.
* `value`: a finite double as a rational number.
* `truncate?_eq_floor`: the whole part of a positive double.
-/

namespace BlockStorage.Double

open Float.Model Float.Model.UnpackedFloat

/-! ## Decoding -/

theorem toNat_unpackExponent (b : BitVec 64) :
    (@unpackExponent .binary64 b).toNat = b.toNat / 2 ^ 52 % 2 ^ 11 := by
  rw [unpackExponent, BitVec.toNat_cast, BitVec.extractLsb_toNat, Nat.shiftRight_eq_div_pow]
  rfl

theorem toNat_unpackMantissa (b : BitVec 64) :
    (@unpackMantissa .binary64 b).toNat = b.toNat % 2 ^ 52 := by
  rw [unpackMantissa, BitVec.toNat_cast, BitVec.extractLsb_toNat, Nat.shiftRight_zero]
  rfl

theorem toNat_unpackSign (b : BitVec 64) :
    (@unpackSign .binary64 b).toNat = b.toNat / 2 ^ 63 := by
  rw [unpackSign, BitVec.toNat_cast, BitVec.extractLsb_toNat, Nat.shiftRight_eq_div_pow]
  have := b.isLt
  show b.toNat / 2 ^ 63 % 2 = _
  omega

/-- The sign of what is unpacked is the one that is decoded. -/
theorem apply_unpackSign (b : BitVec 64) (n : Int) :
    (Sign.ofBitVec (@unpackSign .binary64 b)).apply n =
      if b.toNat / 2 ^ 63 == 1 then -n else n := by
  have hbits := toNat_unpackSign b
  rw [Sign.ofBitVec]
  by_cases h : @unpackSign .binary64 b = 0#1
  · have hzero : b.toNat / 2 ^ 63 = 0 := by rw [← hbits, h]; rfl
    rw [if_pos h, hzero]
    rfl
  · have hone : b.toNat / 2 ^ 63 = 1 := by
      have hlt := (@unpackSign .binary64 b).isLt
      have hne : (@unpackSign .binary64 b).toNat ≠ 0 := fun h0 => h (BitVec.eq_of_toNat_eq h0)
      omega
    rw [if_neg h, hone]
    rfl

/-- Ticks, by the three fields of the bits. -/
theorem ticks_unpack {b : BitVec 64} (hfinite : b.toNat / 2 ^ 52 % 2 ^ 11 ≠ 2047) :
    ticks (UnpackedFloat.unpack .binary64 b) =
      (Sign.ofBitVec (@unpackSign .binary64 b)).apply
        (if b.toNat / 2 ^ 52 % 2 ^ 11 = 0 then b.toNat % 2 ^ 52 * 2 ^ level (-1074)
          else (2 ^ 52 + b.toNat % 2 ^ 52) *
            2 ^ level ((b.toNat / 2 ^ 52 % 2 ^ 11 : Nat) - 1075) : Nat) := by
  have hexponent := toNat_unpackExponent b
  have hmantissa := toNat_unpackMantissa b
  have hlast : @unpackExponent .binary64 b ≠ -1#11 := fun h => by
    rw [h] at hexponent
    exact hfinite hexponent.symm
  rw [UnpackedFloat.unpack]
  dsimp only
  rw [if_neg hlast]
  by_cases hfirst : @unpackExponent .binary64 b = 0#11
  · have hzero : b.toNat / 2 ^ 52 % 2 ^ 11 = 0 := by rw [← hexponent, hfirst]; rfl
    rw [if_pos hfirst, if_pos hzero]
    split
    · next hnone =>
      have hnone : b.toNat % 2 ^ 52 = 0 := by rw [← hmantissa, hnone]; rfl
      rw [ticks, hnone, Nat.zero_mul]
      cases Sign.ofBitVec (@unpackSign .binary64 b) <;> rfl
    · rw [ticks, hmantissa, hexponent, hzero]
      rfl
  · have hmore : b.toNat / 2 ^ 52 % 2 ^ 11 ≠ 0 := fun h => hfirst <| by
      refine BitVec.eq_of_toNat_eq ?_
      rw [hexponent, h]
      rfl
    rw [if_neg hfirst, if_neg hmore, ticks, toNat_one_append, hmantissa, hexponent]
    rfl

/-- The form of a double tells its number of ticks. -/
theorem count_of_decode {x : Float} {s : Bool} {m : Nat} {e : Int}
    (h : Decimal.Real.decode x = .finite s m e) :
    -1074 ≤ e ∧
      count x = if s then -((m * 2 ^ level e : Nat) : Int) else (m * 2 ^ level e : Nat) := by
  have hbits : x.toBits.toNat = x.toModel.toBits.toBitVec.toNat := rfl
  rw [Decimal.Real.decode] at h
  dsimp only [Nat.pow_eq] at h
  rw [hbits] at h
  rw [count, Float.Model.unpack]
  split at h
  · split at h <;> cases h
  · next hfinite =>
    rw [ticks_unpack hfinite, apply_unpackSign]
    split at h
    · next hzero =>
      cases h
      rw [if_pos hzero]
      exact ⟨by decide, rfl⟩
    · next hmore =>
      cases h
      rw [if_neg hmore]
      exact ⟨by omega, rfl⟩

/-! ## Numbers -/

/-- The number that a finite double is. -/
def value (x : Float) : ℚ := count x / (2 ^ level 0 : Nat)

theorem value_pos {x : Float} (h : 0.0 < x) : 0 < value x := by
  have hcount : (0 : ℚ) < count x := by exact_mod_cast (zero_lt_iff_count.mp h).2
  exact div_pos hcount (by exact_mod_cast Nat.two_pow_pos _)

/-- A double that is more than zero does not count as zero. -/
theorem bne_zero_of_pos {x : Float} (h : 0.0 < x) : (x != 0.0) = true := by
  obtain ⟨hnumber, hpos⟩ := zero_lt_iff_count.mp h
  have hzero : count 0.0 = 0 := rfl
  have hcompare : x.toModel.unpack.compare (0.0 : Float).toModel.unpack = some .gt := by
    rw [compare_of_not_isNaN ⟨hnumber, by decide⟩, hzero, compare_gt_iff_gt.mpr hpos]
  have hdef : (x == 0.0) = x.toModel.unpack.beq (0.0 : Float).toModel.unpack := rfl
  rw [bne, hdef, UnpackedFloat.beq, hcompare]
  rfl

/-- What is decoded as a whole part is the number of whole units among the ticks. -/
theorem wholePart_eq (m : Nat) {e : Int} (he : -1074 ≤ e) :
    Decimal.Real.wholePart m e = m * 2 ^ level e / 2 ^ level 0 := by
  cases e with
  | ofNat k =>
    have hlevel : level (.ofNat k) = k + level 0 := by
      rw [Int.ofNat_eq_natCast]
      unfold level
      omega
    rw [hlevel, Nat.pow_add, ← Nat.mul_assoc, Nat.mul_div_cancel _ (Nat.two_pow_pos _)]
    rfl
  | negSucc k =>
    have hlevel : level 0 = k + 1 + level (.negSucc k) := by
      unfold level
      omega
    rw [hlevel, Nat.pow_add, Nat.mul_div_mul_right _ _ (Nat.two_pow_pos _)]
    rfl

/-- **The whole part of a positive double is the floor of its number.** -/
theorem truncate?_eq_floor {x : Float} (hfinite : x.isFinite = true) (hpos : 0.0 < x) :
    Decimal.Real.truncate? x = some ⌊value x⌋ := by
  obtain ⟨s, m, e, hx⟩ := decode_of_isFinite hfinite
  obtain ⟨he, hcount⟩ := count_of_decode hx
  have hs : s = false := by
    have hpos := (zero_lt_iff_count.mp hpos).2
    cases s with
    | false => rfl
    | true =>
      rw [hcount, if_pos rfl] at hpos
      omega
  subst hs
  rw [if_neg Bool.false_ne_true] at hcount
  have hfloor : ⌊value x⌋ = count x / (2 ^ level 0 : Nat) := Rat.floor_intCast_div_natCast _ _
  rw [Decimal.Real.truncate?, hx, hfloor, hcount]
  dsimp only
  rw [if_neg Bool.false_ne_true, wholePart_eq m he]
  rfl

end BlockStorage.Double
