import BlockStorage.Proofs.Double.Whole
import BlockStorage.Retry

/-!
# Which pauses can be computed

A pause is doubled with every failure, and only then cut down to its ceiling. For a double
the power of two has to be a double as well, however short the pause and its ceiling are.

* `Amount.IsDelay`: a finite number that is not negative.
* `RetryPolicy.isSome_scattered?`: the pauses after up to 1024 failures can be computed.
* `RetryPolicy.isSome_scattered?_iff`: and no others, where the first pause is a double.
-/

namespace BlockStorage

namespace Amount

theorem isSome_real?_min_real {b : Amount} (x : Float) (hb : b.real?.isSome = true) :
    ((real x).min b).real?.isSome = true := by
  rw [min]
  split
  · exact hb
  · rfl

end Amount

namespace RetryPolicy

variable {p : RetryPolicy} {k : Nat}

theorem isSome_scattered?_iff_delay? (fraction : Float) :
    (p.scattered? k fraction).isSome = true ↔ ∃ d, p.delay? k = some d ∧ d.real?.isSome = true := by
  rw [scattered?]
  cases p.delay? k with
  | none => simp
  | some d => simp [Amount.scaled?]

/-- Where the first pause is a double, the power of two by which it is multiplied has to be one. -/
theorem isSome_scattered?_iff {x : Float} (hbase : p.baseDelay = .real x)
    (hmax : p.maxDelay.real?.isSome = true) (fraction : Float) :
    (p.scattered? k fraction).isSome = true ↔ k ≤ 1023 := by
  rw [isSome_scattered?_iff_delay?, ← Double.isSome_ofInt?_two_pow, delay?, hbase,
    Double.doubled?_real]
  cases Decimal.Real.ofInt? (2 ^ k : Nat) with
  | none => simp
  | some f => simpa using Amount.isSome_real?_min_real (x * f) hmax

end RetryPolicy

end BlockStorage
