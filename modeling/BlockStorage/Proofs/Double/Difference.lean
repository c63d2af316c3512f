import BlockStorage.Proofs.Double.Order

/-!
# Differences of doubles

A difference is the difference of the ticks, rounded. Rounding is monotone and keeps
what a double holds, and no difference of two doubles is less than a tick.

* `rounded`: a number of ticks as a double can hold it. Past the end it is an infinity,
  which stands there.
* `count_sub`: the difference of finite numbers; `swamped`: that of any others.
* `zero_lt_sub`: a difference is positive exactly if the first number is the greater.
* `sub_lt_of_le`: what is less after a time was less before.
-/

namespace BlockStorage.Double

open Float.Model Float.Model.UnpackedFloat

/-! ## Rounding ticks -/

/-- A number of ticks as a double can hold it. -/
def rounded (n : Int) : Int := n.sign * (min (nearest n.natAbs) limit : Nat)

@[simp] theorem rounded_neg (n : Int) : rounded (-n) = -rounded n := by
  rw [rounded, Int.sign_neg, Int.natAbs_neg, rounded, Int.neg_mul]

@[simp] theorem rounded_natCast (n : Nat) : rounded n = (min (nearest n) limit : Nat) := by
  rcases Nat.eq_zero_or_pos n with rfl | h
  · simp [rounded]
  · rw [rounded, Int.natAbs_natCast, Int.sign_eq_one_of_pos (by omega), Int.one_mul]

@[simp] theorem rounded_zero : rounded 0 = 0 := by rw [rounded, Int.sign_zero, Int.zero_mul]

theorem rounded_apply (s : Sign) (n : Nat) :
    rounded (s.apply n) = s.apply (min (nearest n) limit : Nat) := by
  cases s <;> simp [Sign.apply]

theorem rounded_mono {n n' : Int} (h : n ≤ n') : rounded n ≤ rounded n' := by
  obtain ⟨k, rfl | rfl⟩ := n.eq_nat_or_neg <;> obtain ⟨k', rfl | rfl⟩ := n'.eq_nat_or_neg <;>
    simp only [rounded_neg, rounded_natCast]
  · have := nearest_mono (show k ≤ k' by omega)
    omega
  · obtain ⟨rfl, rfl⟩ : k = 0 ∧ k' = 0 := by omega
    simp
  · omega
  · have := nearest_mono (show k' ≤ k by omega)
    omega

theorem rounded_pos {n : Int} : 0 < rounded n ↔ 0 < n := by
  have hlimit := limit_pos
  obtain ⟨k, rfl | rfl⟩ := n.eq_nat_or_neg
  · rw [rounded_natCast]
    have hpos := @nearest_pos k
    rcases Nat.eq_zero_or_pos k with rfl | h
    · simp
    · omega
  · rw [rounded_neg, rounded_natCast]
    omega

/-! ## Packing what an operation gives -/

/-- A number, and of so many ticks. -/
def Counts (a : UnpackedFloat) (n : Int) : Prop := ¬a.isNaN ∧ ticks a = n

theorem counts_pack_finite (s : Sign) {m : Nat} {e : Int} (h : 0 < m) (fits : Fits m e) :
    Counts (Float.Model.pack (.finite s m e h)).unpack
      (s.apply (min (m * 2 ^ level e) limit : Nat)) := by
  rw [unpack_pack_finite s h fits]
  split
  · next most =>
    rw [Nat.min_eq_left (Nat.le_of_lt (fits.between h most).2)]
    exact ⟨Bool.false_ne_true, rfl⟩
  · next more =>
    rw [Nat.min_eq_right (fits.limit_le more)]
    exact ⟨Bool.false_ne_true, rfl⟩

theorem counts_pack_round (s : Sign) {m : Nat} {e : Int} (h : 0 < m) (he : -1074 ≤ e) :
    Counts (Float.Model.pack (UnpackedFloat.round .binary64 s m e)).unpack
      (rounded (s.apply (m * 2 ^ level e : Nat))) := by
  obtain ⟨m', e', h', hround, fits, hticks⟩ := round_ticks s h he
  rw [hround, rounded_apply, ← hticks]
  exact counts_pack_finite s h' fits

theorem counts_pack_zero (s : Sign) : Counts (Float.Model.pack (.zero s)).unpack 0 := by
  cases s <;> exact ⟨by decide, by decide⟩

theorem counts_pack_normalize (n : Int) {e : Int} (he : -1074 ≤ e) (z : Sign) :
    Counts (Float.Model.pack (UnpackedFloat.normalize .binary64 n e z)).unpack
      (rounded (n * (2 ^ level e : Nat))) := by
  rcases lt_trichotomy n 0 with h | rfl | h
  · have hticks : n * (2 ^ level e : Nat) =
        Sign.negative.apply ((-n).toNat * 2 ^ level e : Nat) := by
      simp only [Sign.apply, Int.natCast_mul, Int.toNat_of_nonneg (show 0 ≤ -n by omega)]
      ring
    rw [UnpackedFloat.normalize, compare_lt_iff_lt.mpr h, hticks]
    exact counts_pack_round .negative (by omega) he
  · rw [Int.zero_mul, rounded_zero]
    exact counts_pack_zero z
  · have hticks : n * (2 ^ level e : Nat) =
        Sign.positive.apply (n.toNat * 2 ^ level e : Nat) := by
      simp only [Sign.apply, Int.natCast_mul, Int.toNat_of_nonneg (show 0 ≤ n by omega)]
    rw [UnpackedFloat.normalize, compare_gt_iff_gt.mpr h, hticks]
    exact counts_pack_round .positive (by omega) he

/-! ## Subtracting -/

theorem decreaseExponent_ticks (m : Nat) {e t : Int} (hle : t ≤ e) (he : -1074 ≤ t) :
    (decreaseExponent m e t).1 * 2 ^ level t = m * 2 ^ level e := by
  rw [decreaseExponent, Nat.shiftLeft_eq, Nat.mul_assoc, ← Nat.pow_add]
  congr 2
  unfold level
  omega

theorem apply_mul (s : Sign) (m n : Nat) : s.apply m * n = s.apply (m * n : Nat) := by
  cases s <;> simp [Sign.apply]

theorem apply_neg (s : Sign) (n : Int) : (-s).apply n = -s.apply n := by
  cases s <;> simp [Sign.apply]

/-- What a double holds is not rounded. -/
theorem rounded_ticks {a : UnpackedFloat} (ha : Canonical a) (fa : a.isFinite) :
    rounded (ticks a) = ticks a := by
  cases ha with
  | notANumber => cases fa
  | infinity s => cases fa
  | zero s => exact rounded_zero
  | finite s h fits most =>
    rw [ticks, rounded_apply, nearest_of_fits fits.lt,
      Nat.min_eq_left (Nat.le_of_lt (fits.between h most).2)]

theorem unpack_pack {a : UnpackedFloat} (ha : Canonical a) : (Float.Model.pack a).unpack = a := by
  cases ha with
  | notANumber => rfl
  | infinity s => cases s <;> rfl
  | zero s => cases s <;> rfl
  | finite s h fits most => rw [unpack_pack_finite s h fits, if_pos most]

/-- A difference of finite numbers is the difference of their ticks, rounded. -/
theorem counts_pack_sub {a b : UnpackedFloat} (ha : Canonical a) (hb : Canonical b)
    (fa : a.isFinite) (fb : b.isFinite) :
    Counts (Float.Model.pack (UnpackedFloat.sub .binary64 a b)).unpack
      (rounded (ticks a - ticks b)) := by
  cases ha with
  | notANumber => cases fa
  | infinity s => cases fa
  | zero s =>
    cases hb with
    | notANumber => cases fb
    | infinity s' => cases fb
    | zero s' =>
      rw [show ticks (.zero s) - ticks (.zero s') = 0 from rfl, rounded_zero]
      cases s <;> cases s' <;> exact counts_pack_zero _
    | @finite s' m' e' h' fits' most' =>
      have hneg :
          ticks (.zero s) - ticks (.finite s' m' e' h') = ticks (.finite (-s') m' e' h') := by
        rw [ticks, ticks, ticks, apply_neg, Int.zero_sub]
      rw [hneg, rounded_ticks (.finite (-s') h' fits' most') rfl, UnpackedFloat.sub,
        unpack_pack (.finite (-s') h' fits' most')]
      exact ⟨Bool.false_ne_true, rfl⟩
  | @finite s m e h fits most =>
    cases hb with
    | notANumber => cases fb
    | infinity s' => cases fb
    | zero s' =>
      have hsame : ticks (.finite s m e h) - ticks (.zero s') = ticks (.finite s m e h) :=
        Int.sub_zero _
      have hsub : UnpackedFloat.sub .binary64 (.finite s m e h) (.zero s') = .finite s m e h := rfl
      rw [hsame, rounded_ticks (.finite s h fits most) rfl, hsub,
        unpack_pack (.finite s h fits most)]
      exact ⟨Bool.false_ne_true, rfl⟩
    | @finite s' m' e' h' fits' most' =>
      have hleast : -1074 ≤ min e e' := by
        have := fits.least
        have := fits'.least
        omega
      have hticks : ticks (.finite s m e h) - ticks (.finite s' m' e' h') =
          (s.apply (decreaseExponent m e (min e e')).1 -
            s'.apply (decreaseExponent m' e' (min e e')).1) * (2 ^ level (min e e') : Nat) := by
        rw [ticks, ticks, ← decreaseExponent_ticks m (Int.min_le_left e e') hleast,
          ← decreaseExponent_ticks m' (Int.min_le_right e e') hleast, ← apply_mul, ← apply_mul,
          ← Int.sub_mul]
      rw [hticks]
      exact counts_pack_normalize _ hleast .positive

/-- What is left of a difference around the infinities, where only the order of the two counts. -/
inductive Swamped (n n' : Int) (isNaN : Bool) (d : Int) : Prop
  | none (h : n = n') (nan : isNaN)
  | up (h : n' < n) (number : ¬isNaN) (eq : d = limit)
  | down (h : n < n') (number : ¬isNaN) (eq : d = -limit)

theorem swamped_sub {a b : UnpackedFloat} (ha : Canonical a) (hb : Canonical b) (na : ¬a.isNaN)
    (nb : ¬b.isNaN) (h : ¬(a.isFinite ∧ b.isFinite)) :
    Swamped (ticks a) (ticks b)
      (Float.Model.pack (UnpackedFloat.sub .binary64 a b)).unpack.isNaN
      (ticks (Float.Model.pack (UnpackedFloat.sub .binary64 a b)).unpack) := by
  have hlimit := limit_pos
  have hneg := ticks_infinity_negative
  have hpos := ticks_infinity_positive
  by_cases fa : a.isFinite
  · have hbetween := ticks_between ha fa
    obtain ⟨s, rfl⟩ := eq_infinity nb fun fb => h ⟨fa, fb⟩
    have hsub : UnpackedFloat.sub .binary64 a (.infinity s) = .infinity (-s) := by
      cases ha with
      | notANumber => exact absurd rfl na
      | infinity s => cases fa
      | zero s => rfl
      | finite s h fits most => rfl
    rw [hsub, unpack_pack (.infinity _)]
    cases s
    · exact .up (by omega) Bool.false_ne_true rfl
    · exact .down (by omega) Bool.false_ne_true rfl
  · obtain ⟨s, rfl⟩ := eq_infinity na fa
    by_cases fb : b.isFinite
    · have hbetween := ticks_between hb fb
      have hsub : UnpackedFloat.sub .binary64 (.infinity s) b = .infinity s := by
        cases hb with
        | notANumber => exact absurd rfl nb
        | infinity s => cases fb
        | zero s => rfl
        | finite s h fits most => rfl
      rw [hsub, unpack_pack (.infinity _)]
      cases s
      · exact .down (by omega) Bool.false_ne_true rfl
      · exact .up (by omega) Bool.false_ne_true rfl
    · obtain ⟨s', rfl⟩ := eq_infinity nb fb
      cases s <;> cases s'
      · exact .none rfl rfl
      · exact .down (by omega) Bool.false_ne_true rfl
      · exact .up (by omega) Bool.false_ne_true rfl
      · exact .none rfl rfl

/-! ## Comparing differences -/

theorem isNaN_sub {x y : Float} (h : x.isNaN ∨ y.isNaN) : (x - y).isNaN := by
  have hsub : UnpackedFloat.sub .binary64 x.toModel.unpack y.toModel.unpack = .notANumber := by
    rcases h with h | h
    · rw [isNaN_iff.mp h]
      cases y.toModel.unpack <;> rfl
    · rw [isNaN_iff.mp h]
      cases x.toModel.unpack <;> rfl
  show (Float.Model.pack
    (UnpackedFloat.sub .binary64 x.toModel.unpack y.toModel.unpack)).unpack.isNaN
  rw [hsub]
  rfl

theorem isNaN_add {x y : Float} (h : x.isNaN ∨ y.isNaN) : (x + y).isNaN := by
  have hadd : UnpackedFloat.add .binary64 x.toModel.unpack y.toModel.unpack = .notANumber := by
    rcases h with h | h
    · rw [isNaN_iff.mp h]
      cases y.toModel.unpack <;> rfl
    · rw [isNaN_iff.mp h]
      cases x.toModel.unpack <;> rfl
  show (Float.Model.pack
    (UnpackedFloat.add .binary64 x.toModel.unpack y.toModel.unpack)).unpack.isNaN
  rw [hadd]
  rfl

theorem count_sub {x y : Float} (hx : x.isFinite) (hy : y.isFinite) :
    ¬(x - y).isNaN ∧ count (x - y) = rounded (count x - count y) :=
  counts_pack_sub (canonical_unpack x) (canonical_unpack y) hx hy

theorem swamped {x y : Float} (hx : ¬x.isNaN) (hy : ¬y.isNaN) (h : ¬(x.isFinite ∧ y.isFinite)) :
    Swamped (count x) (count y) (x - y).isNaN (count (x - y)) :=
  swamped_sub (canonical_unpack x) (canonical_unpack y) hx hy h

/-- A difference is positive exactly if it is taken from the greater: none is rounded away. -/
theorem zero_lt_sub {x y : Float} : 0.0 < x - y ↔ y < x := by
  have hlimit := limit_pos
  rw [zero_lt_iff_count, lt_iff]
  by_cases hnan : x.isNaN ∨ y.isNaN
  · exact iff_of_false (fun h => h.1 (isNaN_sub hnan)) (by tauto)
  obtain ⟨hx, hy⟩ := not_or.mp hnan
  rw [and_iff_right (And.intro hy hx)]
  by_cases hfin : x.isFinite ∧ y.isFinite
  · obtain ⟨hd, hcount⟩ := count_sub hfin.1 hfin.2
    rw [and_iff_right hd, hcount, rounded_pos]
    omega
  · cases swamped hx hy hfin with
    | none h nan => exact iff_of_false (fun hd => hd.1 nan) (by omega)
    | up h number eq => exact iff_of_true ⟨number, by omega⟩ h
    | down h number eq => exact iff_of_false (fun hd => absurd hd.2 (by omega)) (by omega)

/-- The earlier of two numbers stays below a bound if the later does, whatever is subtracted. -/
theorem sub_lt_of_le {x y z w : Float} (h : x ≤ y) (hlt : y - z < w) : x - z < w := by
  have hlimit := limit_pos
  rw [le_iff] at h
  rw [lt_iff] at hlt ⊢
  obtain ⟨⟨hx, hy⟩, hle⟩ := h
  obtain ⟨⟨hd, hw⟩, hlt⟩ := hlt
  have hz : ¬z.isNaN := fun hz => hd (isNaN_sub (.inr hz))
  have hleast := neg_limit_le_count hd
  have hmost := count_le_limit hw
  have hyz : ¬(y.isFinite ∧ z.isFinite) → count y < count z := fun hfin => by
    cases swamped hy hz hfin with
    | none h nan => exact absurd nan hd
    | up h number eq => omega
    | down h number eq => exact h
  by_cases hfin : x.isFinite ∧ z.isFinite
  · obtain ⟨hd', hcount'⟩ := count_sub hfin.1 hfin.2
    refine ⟨⟨hd', hw⟩, ?_⟩
    have hx' := count_between hfin.1
    have hz' := count_between hfin.2
    by_cases hfy : y.isFinite
    · have hmono : rounded (count x - count z) ≤ rounded (count y - count z) :=
        rounded_mono (by omega)
      have hcount := (count_sub hfy hfin.2).2
      omega
    · have := hyz fun h => hfy h.1
      have := count_infinite hy hfy
      omega
  · have hxz : count x < count z := by
      by_cases hfyz : y.isFinite ∧ z.isFinite
      · have := count_between hfyz.1
        have := count_between hfyz.2
        have := count_infinite hx fun h => hfin ⟨h, hfyz.2⟩
        omega
      · have := hyz hfyz
        omega
    cases swamped hx hz hfin with
    | none h nan => omega
    | up h number eq => omega
    | down h number eq => exact ⟨⟨number, hw⟩, by omega⟩

end BlockStorage.Double
