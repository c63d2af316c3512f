import BlockStorage.Proofs.Double.Rounding

/-!
# Doubles as numbers of ticks

The order of doubles is the order of their numbers of ticks. An infinity stands where
the first number would be that is too large.

* `Canonical`: the unpacked floats that a double holds. `unpack_pack_finite`: packing
  one that is too large gives an infinity.
* `ticks`, `count`: the number of ticks.
* `lt_iff`, `le_iff`: comparing is comparing ticks.
-/

namespace BlockStorage.Double

open Float.Model Float.Model.UnpackedFloat

/-! ## Packing -/

/-- What a double holds. -/
inductive Canonical : UnpackedFloat → Prop
  | notANumber : Canonical .notANumber
  | infinity (s : Sign) : Canonical (.infinity s)
  | zero (s : Sign) : Canonical (.zero s)
  | finite (s : Sign) {m : Nat} {e : Int} (h : 0 < m) (fits : Fits m e) (most : e ≤ 971) :
    Canonical (.finite s m e h)

theorem toNat_one_append {w : Nat} (v : BitVec w) : (1#1 ++ v).toNat = 2 ^ w + v.toNat := by
  rw [BitVec.toNat_append, ← Nat.shiftLeft_add_eq_or_of_lt v.isLt]
  simp [Nat.shiftLeft_eq]

theorem canonical_unpack (x : Float) : Canonical x.toModel.unpack := by
  unfold Float.Model.unpack UnpackedFloat.unpack
  generalize x.toModel.toBits.toBitVec = b
  have hmantissa : (@unpackMantissa .binary64 b).toNat < 2 ^ 52 :=
    (@unpackMantissa .binary64 b).isLt
  have hexponent : (@unpackExponent .binary64 b).toNat < 2 ^ 11 :=
    (@unpackExponent .binary64 b).isLt
  have hbias : ((Format.binary64.exponentBias : Nat) : Int) = 1023 := rfl
  have hbits : ((Format.binary64.mantissaBitsWithoutImplicit : Nat) : Int) = 52 := rfl
  dsimp only
  split
  · split
    · exact .infinity _
    · exact .notANumber
  · next hlast =>
    have hlast : (@unpackExponent .binary64 b).toNat ≠ 2 ^ 11 - 1 := fun h =>
      hlast (BitVec.eq_of_toNat_eq (by rw [h]; rfl))
    split
    · next hfirst =>
      have hfirst : (@unpackExponent .binary64 b).toNat = 0 := by rw [hfirst]; rfl
      split
      · exact .zero _
      · refine .finite _ _ ⟨?_, ?_, .inr ?_⟩ ?_ <;> omega
    · next hfirst =>
      have hfirst : (@unpackExponent .binary64 b).toNat ≠ 0 := fun h =>
        hfirst (BitVec.eq_of_toNat_eq h)
      have hone : (1#1 ++ @unpackMantissa .binary64 b).toNat =
          2 ^ 52 + (@unpackMantissa .binary64 b).toNat := toNat_one_append _
      refine .finite _ _ ⟨?_, ?_, .inl ?_⟩ ?_ <;> omega

/-- The three fields of a double's bits, read. -/
theorem unpack_packComponents (s : Sign) (e : BitVec 11) (m : BitVec 52) :
    UnpackedFloat.unpack .binary64 (packComponents .binary64 s e m) =
      if e = -1#11 then if m = 0#52 then .infinity s else .notANumber
      else if e = 0#11 then
        if h : m = 0#52 then .zero s
        else .finite s m.toNat (e.toNat - 1075 + 1)
          (by simpa [BitVec.toNat_pos, BitVec.pos_iff_ne_zero])
      else .finite s (1#1 ++ m).toNat (e.toNat - 1075)
        (by rw [toNat_one_append]; exact Nat.add_pos_left (Nat.two_pow_pos 52) _) := by
  rw [UnpackedFloat.unpack]
  simp only [unpackMantissa_packComponents, unpackExponent_packComponents,
    unpackSign_packComponents, Sign.ofBitVec_toBitVec]
  rfl

/-- What is not too large is unpacked as it was packed. -/
theorem unpack_pack_finite (s : Sign) {m : Nat} {e : Int} (h : 0 < m) (fits : Fits m e) :
    (Float.Model.pack (.finite s m e h)).unpack =
      if e ≤ 971 then .finite s m e h else .infinity s := by
  obtain ⟨hlt, hleast, hnormal⟩ := fits
  have hbias : (e + (Format.binary64.exponentBias : Nat) +
      (Format.binary64.mantissaBitsWithoutImplicit : Nat)).toNat = (e + 1075).toNat := by
    show (e + (1023 : Nat) + (52 : Nat)).toNat = _
    omega
  have hbits : Format.binary64.mantissaBits = 53 := rfl
  have hcap : 2 ^ Format.binary64.exponentBits = 2048 := rfl
  show UnpackedFloat.unpack .binary64 (UnpackedFloat.pack .binary64 (.finite s m e h)) = _
  rw [UnpackedFloat.pack]
  simp only [hbias, hbits, hcap]
  by_cases hmost : e ≤ 971
  · have hexponent : (BitVec.ofNat 11 (e + 1075).toNat).toNat = (e + 1075).toNat := by
      rw [BitVec.toNat_ofNat]
      omega
    have hlast : BitVec.ofNat 11 (e + 1075).toNat ≠ -1#11 := fun heq => by
      have : (e + 1075).toNat = 2047 := by rw [← hexponent, heq]; rfl
      omega
    have hfirst : BitVec.ofNat 11 (e + 1075).toNat ≠ 0#11 := fun heq => by
      have : (e + 1075).toNat = 0 := by rw [← hexponent, heq]; rfl
      omega
    rw [if_neg (by omega), if_pos hmost]
    by_cases hnorm : 2 ^ 52 ≤ m
    · have hlog : m.log2 = 52 := (Nat.log2_eq_iff (by omega)).mpr ⟨hnorm, hlt⟩
      have hmantissa : (1#1 ++ BitVec.ofNat 52 m).toNat = m := by
        rw [toNat_one_append, BitVec.toNat_ofNat]
        omega
      rw [if_pos (by omega), unpack_packComponents, if_neg hlast, if_neg hfirst]
      simp only [hmantissa, hexponent]
      congr 1
      omega
    · have hlog : m.log2 < 52 := (Nat.log2_lt (by omega)).mpr (by omega)
      have hmantissa : (BitVec.ofNat 52 m).toNat = m := by
        rw [BitVec.toNat_ofNat]
        omega
      have hzero : BitVec.ofNat 52 m ≠ 0#52 := fun heq => by
        have : m = 0 := by rw [← hmantissa, heq]; rfl
        omega
      rw [if_neg (by omega), unpack_packComponents, if_neg (by decide), if_pos rfl, dif_neg hzero]
      simp only [hmantissa]
      congr 1
      show ((0 : Nat) : Int) - 1075 + 1 = e
      omega
  · rw [if_pos (by omega), if_neg hmost, packedInfinity, unpack_packComponents]
    rfl

/-! ## Numbers of ticks -/

/-- The number of ticks at which the doubles end. -/
@[irreducible] def limit : Nat := 2 ^ 53 * 2 ^ level 971

/-- The number of ticks of a double. -/
def ticks : UnpackedFloat → Int
  | .notANumber => 0
  | .infinity s => s.apply limit
  | .zero _ => 0
  | .finite s m e _ => s.apply (m * 2 ^ level e : Nat)

theorem ticks_infinity_negative : ticks (.infinity .negative) = -limit := rfl

theorem ticks_infinity_positive : ticks (.infinity .positive) = limit := rfl

theorem limit_eq : limit = 2 ^ 53 * 2 ^ level 971 := by
  unfold limit
  rfl

theorem limit_pos : 0 < limit :=
  limit_eq ▸ Nat.mul_pos (Nat.two_pow_pos _) (Nat.two_pow_pos _)

theorem Fits.between {m : Nat} {e : Int} (fits : Fits m e) (h : 0 < m) (most : e ≤ 971) :
    0 < m * 2 ^ level e ∧ m * 2 ^ level e < limit := by
  have hlevel : 2 ^ level e ≤ 2 ^ level 971 :=
    Nat.pow_le_pow_right (by decide) (by unfold level; omega)
  refine ⟨Nat.mul_pos h (Nat.two_pow_pos _), ?_⟩
  calc m * 2 ^ level e ≤ m * 2 ^ level 971 := Nat.mul_le_mul_left m hlevel
    _ < 2 ^ 53 * 2 ^ level 971 := Nat.mul_lt_mul_of_pos_right fits.lt (Nat.two_pow_pos _)
    _ = limit := limit_eq.symm

theorem Fits.mul_level_lt_mul_level {m m' : Nat} {e e' : Int} (fits : Fits m e)
    (fits' : Fits m' e') (h : e < e') : m * 2 ^ level e < m' * 2 ^ level e' := by
  have hnormal : 2 ^ 52 ≤ m' := by
    obtain ⟨_, hleast, _⟩ := fits
    obtain ⟨_, _, hnormal⟩ := fits'
    omega
  have hlevel : 2 ^ (level e + 1) ≤ 2 ^ level e' := by
    refine Nat.pow_le_pow_right (by decide) ?_
    have := fits.least
    unfold level
    omega
  calc m * 2 ^ level e < 2 ^ 53 * 2 ^ level e :=
        Nat.mul_lt_mul_of_pos_right fits.lt (Nat.two_pow_pos _)
    _ = 2 ^ 52 * 2 ^ (level e + 1) := by rw [Nat.pow_succ 2 (level e)]; ring
    _ ≤ m' * 2 ^ level e' := Nat.mul_le_mul hnormal hlevel

theorem Fits.limit_le {m : Nat} {e : Int} (fits : Fits m e) (more : ¬e ≤ 971) :
    limit ≤ m * 2 ^ level e := by
  have hnormal : 2 ^ 52 ≤ m := by
    obtain ⟨_, _, hnormal⟩ := fits
    omega
  have hlevel : 2 ^ (level 971 + 1) ≤ 2 ^ level e :=
    Nat.pow_le_pow_right (by decide) (by unfold level; omega)
  calc limit = 2 ^ 53 * 2 ^ level 971 := limit_eq
    _ = 2 ^ 52 * 2 ^ (level 971 + 1) := by rw [Nat.pow_succ 2 (level 971)]; ring
    _ ≤ m * 2 ^ level e := Nat.mul_le_mul hnormal hlevel

/-- Comparing exponents first and mantissas then is comparing ticks. -/
theorem compare_fields {m m' : Nat} {e e' : Int} (fits : Fits m e) (fits' : Fits m' e') :
    (compare e e').then (compare m m') = compare (m * 2 ^ level e) (m' * 2 ^ level e') := by
  rcases lt_trichotomy e e' with h | rfl | h
  · rw [compare_lt_iff_lt.mpr h, compare_lt_iff_lt.mpr (fits.mul_level_lt_mul_level fits' h)]
    rfl
  · have hpos := Nat.two_pow_pos (level e)
    rw [compare_eq_iff_eq.mpr rfl, Ordering.eq_then]
    rcases lt_trichotomy m m' with h | rfl | h
    · rw [compare_lt_iff_lt.mpr h, compare_lt_iff_lt.mpr (Nat.mul_lt_mul_of_pos_right h hpos)]
    · rw [compare_eq_iff_eq.mpr rfl, compare_eq_iff_eq.mpr rfl]
    · rw [compare_gt_iff_gt.mpr h, compare_gt_iff_gt.mpr (Nat.mul_lt_mul_of_pos_right h hpos)]
  · rw [compare_gt_iff_gt.mpr h, compare_gt_iff_gt.mpr (fits'.mul_level_lt_mul_level fits h)]
    rfl

theorem eq_compare {o : Ordering} {x y : Int}
    (h : match o with | .lt => x < y | .eq => x = y | .gt => y < x) :
    some o = some (compare x y) := by
  cases o with
  | lt => rw [compare_lt_iff_lt.mpr h]
  | eq => rw [compare_eq_iff_eq.mpr h]
  | gt => rw [compare_gt_iff_gt.mpr h]

theorem eq_compare_apply (s : Sign) (n n' : Nat) :
    some (match s with | .positive => compare n n' | .negative => (compare n n').swap) =
      some (compare (s.apply n) (s.apply n')) := by
  rcases lt_trichotomy n n' with h | h | h
  · rw [compare_lt_iff_lt.mpr h]
    cases s <;> refine eq_compare ?_ <;> simp only [Sign.apply, Ordering.swap] <;> omega
  · rw [compare_eq_iff_eq.mpr h]
    cases s <;> refine eq_compare ?_ <;> simp only [Sign.apply, Ordering.swap] <;> omega
  · rw [compare_gt_iff_gt.mpr h]
    cases s <;> refine eq_compare ?_ <;> simp only [Sign.apply, Ordering.swap] <;> omega

theorem ticks_between {a : UnpackedFloat} (ha : Canonical a) (fa : a.isFinite) :
    -limit < ticks a ∧ ticks a < limit := by
  have hlimit := limit_pos
  cases ha with
  | notANumber => cases fa
  | infinity s => cases fa
  | zero s => rw [ticks]; omega
  | finite s h fits most =>
    have hbetween := fits.between h most
    cases s <;> simp only [ticks, Sign.apply] <;> omega

theorem eq_infinity {a : UnpackedFloat} (na : ¬a.isNaN) (fa : ¬a.isFinite) :
    ∃ s, a = .infinity s := by
  cases a with
  | infinity s => exact ⟨s, rfl⟩
  | notANumber => exact absurd rfl na
  | zero s => exact absurd rfl fa
  | finite s m e h => exact absurd rfl fa

/-- The order of doubles is that of their ticks. -/
theorem compare_ticks {a b : UnpackedFloat} (ha : Canonical a) (hb : Canonical b)
    (na : a ≠ .notANumber) (nb : b ≠ .notANumber) :
    a.compare b = some (compare (ticks a) (ticks b)) := by
  have hlimit := limit_pos
  cases ha with
  | notANumber => exact absurd rfl na
  | infinity s =>
    cases hb with
    | notANumber => exact absurd rfl nb
    | infinity s' =>
      cases s <;> cases s'
      · exact eq_compare (o := .eq) rfl
      · exact eq_compare (o := .lt) (by simp only [ticks, Sign.apply]; omega)
      · exact eq_compare (o := .gt) (by simp only [ticks, Sign.apply]; omega)
      · exact eq_compare (o := .eq) rfl
    | zero s' =>
      cases s <;> refine eq_compare ?_ <;> simp only [ticks, Sign.apply] <;> omega
    | finite s' h' fits' most' =>
      have hbetween' := fits'.between h' most'
      cases s <;> cases s' <;> refine eq_compare ?_ <;> simp only [ticks, Sign.apply] <;> omega
  | zero s =>
    cases hb with
    | notANumber => exact absurd rfl nb
    | infinity s' =>
      cases s' <;> refine eq_compare ?_ <;> simp only [ticks, Sign.apply] <;> omega
    | zero s' => exact eq_compare (o := .eq) rfl
    | finite s' h' fits' most' =>
      have hbetween' := fits'.between h' most'
      cases s' <;> refine eq_compare ?_ <;> simp only [ticks, Sign.apply] <;> omega
  | finite s h fits most =>
    have hbetween := fits.between h most
    cases hb with
    | notANumber => exact absurd rfl nb
    | infinity s' =>
      cases s <;> cases s' <;> refine eq_compare ?_ <;> simp only [ticks, Sign.apply] <;> omega
    | zero s' =>
      cases s <;> refine eq_compare ?_ <;> simp only [ticks, Sign.apply] <;> omega
    | finite s' h' fits' most' =>
      have hbetween' := fits'.between h' most'
      have hfields := compare_fields fits fits'
      cases s <;> cases s'
      · rw [UnpackedFloat.compare, hfields]
        exact eq_compare_apply .negative _ _
      · exact eq_compare (o := .lt) (by simp only [ticks, Sign.apply]; omega)
      · exact eq_compare (o := .gt) (by simp only [ticks, Sign.apply]; omega)
      · rw [UnpackedFloat.compare, hfields]
        exact eq_compare_apply .positive _ _

/-! ## Comparing doubles -/

theorem compare_of_isNaN {a b : UnpackedFloat} (h : a.isNaN ∨ b.isNaN) : a.compare b = none := by
  rw [isNaN_iff, isNaN_iff] at h
  rcases h with rfl | rfl
  · rfl
  · cases a <;> rfl

/-- The number of ticks of a double. -/
def count (x : Float) : Int := ticks x.toModel.unpack

theorem compare_of_not_isNaN {x y : Float} (h : ¬x.isNaN ∧ ¬y.isNaN) :
    x.toModel.unpack.compare y.toModel.unpack = some (compare (count x) (count y)) :=
  compare_ticks (canonical_unpack x) (canonical_unpack y) (mt isNaN_iff.mpr h.1)
    (mt isNaN_iff.mpr h.2)

theorem lt_iff {x y : Float} : x < y ↔ (¬x.isNaN ∧ ¬y.isNaN) ∧ count x < count y := by
  have hdef : x < y ↔ x.toModel.unpack.lt y.toModel.unpack = true := decide_eq_true_iff
  rw [hdef, UnpackedFloat.lt]
  by_cases h : ¬x.isNaN ∧ ¬y.isNaN
  · rw [compare_of_not_isNaN h, and_iff_right h]
    simp [compare_lt_iff_lt]
  · rw [compare_of_isNaN (by rwa [not_and_or, not_not, not_not] at h)]
    exact iff_of_false (by decide) fun h' => h h'.1

theorem le_iff {x y : Float} : x ≤ y ↔ (¬x.isNaN ∧ ¬y.isNaN) ∧ count x ≤ count y := by
  have hdef : x ≤ y ↔ x.toModel.unpack.le y.toModel.unpack = true := decide_eq_true_iff
  rw [hdef, UnpackedFloat.le]
  by_cases h : ¬x.isNaN ∧ ¬y.isNaN
  · rw [compare_of_not_isNaN h, and_iff_right h, Option.any_some, ← compare_le_iff_le]
    cases compare (count x) (count y) <;> decide
  · rw [compare_of_isNaN (by rwa [not_and_or, not_not, not_not] at h)]
    exact iff_of_false (by decide) fun h' => h h'.1

theorem le_of_lt {x y : Float} (h : x < y) : x ≤ y := by
  obtain ⟨hnumbers, hlt⟩ := lt_iff.mp h
  exact le_iff.mpr ⟨hnumbers, Int.le_of_lt hlt⟩

theorem lt_of_not_le {x y : Float} (hx : ¬x.isNaN) (hy : ¬y.isNaN) (h : ¬y ≤ x) : x < y := by
  rw [le_iff, and_iff_right ⟨hy, hx⟩] at h
  exact lt_iff.mpr ⟨⟨hx, hy⟩, Int.not_le.mp h⟩

theorem count_between {x : Float} (h : x.isFinite) : -limit < count x ∧ count x < limit :=
  ticks_between (canonical_unpack x) h

theorem count_infinite {x : Float} (hx : ¬x.isNaN) (h : ¬x.isFinite) :
    count x = limit ∨ count x = -limit := by
  obtain ⟨s, hs⟩ := eq_infinity (a := x.toModel.unpack) hx h
  rw [count, hs]
  cases s
  · exact .inr rfl
  · exact .inl rfl

theorem neg_limit_le_count {x : Float} (hx : ¬x.isNaN) : -limit ≤ count x := by
  have hlimit := limit_pos
  by_cases h : x.isFinite
  · exact Int.le_of_lt (count_between h).1
  · have := count_infinite hx h
    omega

theorem count_le_limit {x : Float} (hx : ¬x.isNaN) : count x ≤ limit := by
  have hlimit := limit_pos
  by_cases h : x.isFinite
  · exact Int.le_of_lt (count_between h).2
  · have := count_infinite hx h
    omega

theorem zero_lt_iff_count {x : Float} : 0.0 < x ↔ ¬x.isNaN ∧ 0 < count x := by
  have hzero : count 0.0 = 0 := rfl
  have hnumber : ¬(0.0 : Float).isNaN := by decide
  rw [lt_iff, hzero, and_iff_right hnumber]

end BlockStorage.Double
