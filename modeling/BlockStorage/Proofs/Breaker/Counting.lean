import BlockStorage.Proofs.Breaker.Move
import BlockStorage.Proofs.Breaker.Shield
import Mathlib.Data.List.DropRight

/-!
# What the counters of a circuit count

A circuit has two counters for three states, and calls end in any of them. Still each
counter tells one thing wherever it is looked at: in a closed circuit the failures in a
row, in a half-open one the successes since it half-opened. Both stay below their
thresholds, so the circuit changes its state at the very call that reaches one.

* `Traffic.failuresInRow`, `Traffic.successesSince`: the two numbers, of the moments
  of a run.
* `Breaker.Tells`: what the counters say in each state.
* `Breaker.Tells.step`: every moment keeps it.
* `Traffic.counters_tell`: every run of a new circuit, and what the next moment does.
-/

namespace BlockStorage

namespace Traffic

/-! ## Counts of a run -/

/-- The failures after the last success, or after the circuit was closed. -/
def failuresInRow (xs : List Step) : Nat :=
  (xs.rtakeWhile fun x => !(x.succeeds || x.enters .closed)).countP Step.fails

/-- The successes after the circuit was half-opened. -/
def successesSince (xs : List Step) : Nat :=
  (xs.rtakeWhile fun x => !x.enters .halfOpen).countP Step.succeeds

theorem failuresInRow_reset {xs : List Step} {x : Step}
    (h : x.succeeds = true ∨ x.enters .closed = true) : failuresInRow (xs ++ [x]) = 0 := by
  rw [failuresInRow, List.rtakeWhile_concat_neg _ _ _ (by rcases h with h | h <;> simp [h])]
  rfl

theorem failuresInRow_concat {xs : List Step} {x : Step} (h : x.succeeds = false)
    (h' : x.enters .closed = false) :
    failuresInRow (xs ++ [x]) = failuresInRow xs + x.fails.toNat := by
  rw [failuresInRow, List.rtakeWhile_concat_pos _ _ _ (by simp [h, h']), List.countP_append,
    List.countP_singleton]
  cases x.fails <;> rfl

theorem successesSince_reset {xs : List Step} {x : Step} (h : x.enters .halfOpen = true) :
    successesSince (xs ++ [x]) = 0 := by
  rw [successesSince, List.rtakeWhile_concat_neg _ _ _ (by simp [h])]
  rfl

theorem successesSince_concat {xs : List Step} {x : Step} (h : x.enters .halfOpen = false) :
    successesSince (xs ++ [x]) = successesSince xs + x.succeeds.toNat := by
  rw [successesSince, List.rtakeWhile_concat_pos _ _ _ (by simp [h]), List.countP_append,
    List.countP_singleton]
  cases x.succeeds <;> rfl

end Traffic

/-! ## One moment -/

namespace Breaker

/-- What the counters of a circuit say after the moments of a run. -/
structure Tells (b : Breaker) (xs : List Traffic.Step) : Prop where
  closed : b.state = .closed →
    b.failures = Traffic.failuresInRow xs ∧ b.failures < b.failureThreshold
  halfOpen : b.state = .halfOpen →
    b.successes = Traffic.successesSince xs ∧ b.successes < b.successThreshold
  opened : b.state = .opened → b.openedAt.isSome

open Traffic (failuresInRow_reset failuresInRow_concat successesSince_reset successesSince_concat)

/-- **Every moment keeps what the counters say.** -/
theorem Tells.step {xs : List Traffic.Step} {x : Traffic.Step} (h : x.before.breaker.Tells xs)
    (hf : 1 ≤ x.before.breaker.failureThreshold) (hs : 1 ≤ x.before.breaker.successThreshold) :
    x.after.breaker.Tells (xs ++ [x]) := by
  have hmove := x.move
  have hsucceeds : x.succeeds = decide (x.completion? = some .success) := rfl
  have hfails : x.fails = decide (x.completion? = some .failure) := rfl
  have henters : ∀ state, x.enters state =
    decide (x.before.breaker.state ≠ state ∧ x.after.breaker.state = state) := fun _ => rfl
  generalize x.completion? = completion at hmove hsucceeds hfails
  generalize x.before.breaker = b at *
  generalize x.after.breaker = b' at *
  cases hmove with
  | stays =>
    have hkept : ∀ state, x.enters state = false := fun state => by simp [henters]
    refine ⟨fun hstate => ?_, fun hstate => ?_, h.opened⟩
    · rw [failuresInRow_concat (by simp [hsucceeds]) (hkept _), hfails]
      exact h.closed hstate
    · rw [successesSince_concat (hkept _), hsucceeds]
      exact h.halfOpen hstate
  | probes hopen =>
    refine ⟨fun hstate => ?_, fun _ => ?_, fun hstate => ?_⟩
    · cases hstate
    · rw [successesSince_reset (by simp [henters, hopen])]
      exact ⟨rfl, by simpa using Int.lt_of_lt_of_le Int.zero_lt_one hs⟩
    · cases hstate
  | confirms hhalf hbelow =>
    obtain ⟨hcount, -⟩ := h.halfOpen hhalf
    refine ⟨fun hstate => ?_, fun _ => ?_, fun hstate => ?_⟩
    · cases hhalf.symm.trans hstate
    · rw [successesSince_concat (by simp [henters, hhalf]), hsucceeds]
      exact ⟨congrArg (· + 1) hcount, Int.not_le.mp hbelow⟩
    · cases hhalf.symm.trans hstate
  | recovers hhalf hreached =>
    refine ⟨fun _ => ?_, fun hstate => ?_, fun hstate => ?_⟩
    · rw [failuresInRow_reset (Or.inl (by simp [hsucceeds]))]
      exact ⟨rfl, by simpa using Int.lt_of_lt_of_le Int.zero_lt_one hf⟩
    · cases hstate
    · cases hstate
  | calms hother =>
    refine ⟨fun hstate => ?_, fun hstate => absurd hstate hother, h.opened⟩
    rw [failuresInRow_reset (Or.inl (by simp [hsucceeds]))]
    exact ⟨rfl, by simpa using Int.lt_of_lt_of_le Int.zero_lt_one hf⟩
  | trips _ =>
    refine ⟨fun hstate => ?_, fun hstate => ?_, fun _ => rfl⟩
    · cases hstate
    · cases hstate
  | strains hbelow =>
    rw [not_or, not_and] at hbelow
    refine ⟨fun hstate => ?_, fun hstate => absurd hstate hbelow.1, h.opened⟩
    obtain ⟨hcount, -⟩ := h.closed hstate
    rw [failuresInRow_concat (by simp [hsucceeds]) (by simp [henters]), hfails]
    exact ⟨congrArg (· + 1) hcount, Int.not_le.mp (hbelow.2 hstate)⟩

/-- A circuit as it is at first. -/
structure IsNew (b : Breaker) : Prop where
  state : b.state = .closed
  failures : b.failures = 0
  successes : b.successes = 0
  openedAt : b.openedAt = none

theorem IsNew.tells {b : Breaker} (h : b.IsNew) (hf : 1 ≤ b.failureThreshold) : b.Tells [] where
  closed _ := by
    rw [h.failures]
    exact ⟨rfl, by simpa using Int.lt_of_lt_of_le Int.zero_lt_one hf⟩
  halfOpen hstate := nomatch h.state.symm.trans hstate
  opened hstate := nomatch h.state.symm.trans hstate

end Breaker

/-! ## Runs -/

namespace Traffic

variable {xs : List Step} {x : Step}

/-- A closed circuit opens at the failure that completes a row. -/
theorem Step.opens_iff (h : x.before.breaker.Tells xs) (hstate : x.before.breaker.state = .closed) :
    x.after.breaker.state = .opened ↔
      x.fails = true ∧ (failuresInRow xs + 1 : Nat) = x.before.breaker.failureThreshold := by
  obtain ⟨hcount, hbelow⟩ := h.closed hstate
  have hmove := x.move
  rw [Step.fails, ← hcount]
  generalize x.completion? = completion at hmove
  generalize x.before.breaker = b at *
  generalize x.after.breaker = b' at *
  cases hmove with
  | stays => simp [hstate]
  | probes hopen => cases hstate.symm.trans hopen
  | confirms hhalf => cases hstate.symm.trans hhalf
  | recovers hhalf => cases hstate.symm.trans hhalf
  | calms => simp [hstate]
  | trips htrips =>
    obtain hhalf | ⟨-, hreached⟩ := htrips
    · cases hstate.symm.trans hhalf
    · simp only [decide_true, true_and, true_iff]
      omega
  | strains hbelow' =>
    have hkept : ¬ b.failureThreshold ≤ (b.failures + 1 : Nat) := fun hreached =>
      hbelow' (.inr ⟨hstate, hreached⟩)
    simp only [hstate, decide_true, true_and, reduceCtorEq, false_iff]
    omega

/-- A failure opens a half-open circuit anew. -/
theorem Step.reopens (hstate : x.before.breaker.state = .halfOpen) (hfails : x.fails = true) :
    x.after.breaker.OpenSince x.moment.now := by
  have hmove := x.move
  rw [of_decide_eq_true hfails] at hmove
  generalize x.before.breaker = b at *
  generalize x.after.breaker = b' at *
  cases hmove with
  | trips => exact ⟨rfl, rfl⟩
  | strains hbelow => exact absurd (.inl hstate) hbelow

/-- A circuit closes at the success that completes those that it takes. -/
theorem Step.closes_iff (h : x.before.breaker.Tells xs)
    (hstate : x.before.breaker.state ≠ .closed) :
    x.after.breaker.state = .closed ↔
      x.before.breaker.state = .halfOpen ∧ x.succeeds = true ∧
        (successesSince xs + 1 : Nat) = x.before.breaker.successThreshold := by
  have hmove := x.move
  rw [Step.succeeds]
  have hhalfOpen := h.halfOpen
  generalize x.completion? = completion at hmove
  generalize x.before.breaker = b at *
  generalize x.after.breaker = b' at *
  cases hmove with
  | stays => simp [hstate]
  | probes hopen => simp [hopen]
  | confirms hhalf hbelow =>
    obtain ⟨hcount, -⟩ := hhalfOpen hhalf
    simp only [hhalf, decide_true, true_and, reduceCtorEq, false_iff]
    omega
  | recovers hhalf hreached =>
    obtain ⟨hcount, hbelow⟩ := hhalfOpen hhalf
    simp only [hhalf, decide_true, true_and, true_iff]
    omega
  | calms hother => simp [hstate, hother]
  | trips => simp
  | strains => simp [hstate]

/-- What the counters of a circuit tell after a run, and what the next moment does to it. -/
structure CountersTell (s : Traffic) (ms : List Moment) : Prop where
  tells : (s.run ms).breaker.Tells (s.steps ms)
  /-- A closed circuit opens at the failure that completes a row, and at no other moment. -/
  opens : ∀ m, (s.run ms).breaker.state = .closed →
    ((s.run (ms ++ [m])).breaker.state = .opened ↔
      Step.fails ⟨s.run ms, m⟩ = true ∧
        (failuresInRow (s.steps ms) + 1 : Nat) = s.breaker.failureThreshold)
  /-- It notes the time. -/
  opensNow : ∀ m, (s.run ms).breaker.state = .closed →
    (s.run (ms ++ [m])).breaker.state = .opened →
      (s.run (ms ++ [m])).breaker.OpenSince m.now
  reopens : ∀ m, (s.run ms).breaker.state = .halfOpen → Step.fails ⟨s.run ms, m⟩ = true →
    (s.run (ms ++ [m])).breaker.OpenSince m.now
  /-- A circuit closes at the success that completes those that it takes, and at no other
  moment. -/
  closes : ∀ m, (s.run ms).breaker.state ≠ .closed →
    ((s.run (ms ++ [m])).breaker.state = .closed ↔
      (s.run ms).breaker.state = .halfOpen ∧ Step.succeeds ⟨s.run ms, m⟩ = true ∧
        (successesSince (s.steps ms) + 1 : Nat) = s.breaker.successThreshold)

theorem run_tells {s : Traffic} (h : s.breaker.IsNew) (hf : 1 ≤ s.breaker.failureThreshold)
    (hs : 1 ≤ s.breaker.successThreshold) (ms : List Moment) :
    (s.run ms).breaker.Tells (s.steps ms) := by
  -- The thresholds go through the induction, since a step needs those of the circuit it finds.
  suffices hkept : (s.run ms).breaker.Tells (s.steps ms) ∧
      1 ≤ (s.run ms).breaker.failureThreshold ∧ 1 ≤ (s.run ms).breaker.successThreshold from
    hkept.1
  refine steps_induction (P := fun s' xs => s'.breaker.Tells xs ∧
    1 ≤ s'.breaker.failureThreshold ∧ 1 ≤ s'.breaker.successThreshold) ⟨h.tells hf, hf, hs⟩ ?_ ms
  rintro xs x ⟨htells, hf, hs⟩
  refine ⟨htells.step hf hs, ?_, ?_⟩
  · rwa [x.move.failureThreshold]
  · rwa [x.move.successThreshold]

/-- Whatever happens at a new circuit, and in whatever order, its counters tell how far it is from
its thresholds. -/
theorem counters_tell {s : Traffic} (h : s.breaker.IsNew) (hf : 1 ≤ s.breaker.failureThreshold)
    (hs : 1 ≤ s.breaker.successThreshold) (ms : List Moment) : s.CountersTell ms := by
  have htells := run_tells h hf hs ms
  obtain ⟨hfailure, hsuccess⟩ := run_thresholds s ms
  refine ⟨htells, ?_, ?_, ?_, ?_⟩
  · intro m hstate
    rw [run_append, ← hfailure]
    exact Step.opens_iff (x := ⟨s.run ms, m⟩) htells hstate
  · intro m hstate hopens
    rw [run_append] at hopens ⊢
    exact after_openSince (by rw [hstate]; exact CircuitState.noConfusion) hopens
  · intro m hstate hfails
    rw [run_append]
    exact Step.reopens (x := ⟨s.run ms, m⟩) hstate hfails
  · intro m hstate
    rw [run_append, ← hsuccess]
    exact Step.closes_iff (x := ⟨s.run ms, m⟩) htells hstate

/-- A circuit that two failures in a row open. -/
def twofold : Traffic := { breaker := { failureThreshold := 2 } }

/-- Of four calls the first fails, the second ends well and the third fails. -/
def mixed : List Moment :=
  [⟨0.0, 0, .arrives⟩, ⟨0.0, 1, .arrives⟩, ⟨0.0, 2, .arrives⟩, ⟨0.0, 3, .arrives⟩,
    ⟨1.0, 0, .settles (some (.transport .noRegion))⟩, ⟨2.0, 1, .settles none⟩,
    ⟨3.0, 2, .settles (some (.transport .noRegion))⟩]

theorem twofold_counters_tell :
    (twofold.breaker.IsNew ∧ 1 ≤ twofold.breaker.failureThreshold ∧
      1 ≤ twofold.breaker.successThreshold) ∧
    failuresInRow (twofold.steps mixed) = 1 ∧ (twofold.run mixed).breaker.failures = 1 ∧
    (twofold.run (mixed ++ [⟨4.0, 3, .settles (some (.transport .noRegion))⟩])).breaker.OpenSince
      4.0 := by
  have hnew : twofold.breaker.IsNew := ⟨rfl, rfl, rfl, rfl⟩
  have h : twofold.CountersTell mixed := counters_tell hnew (by decide) (by decide) mixed
  have hclosed : (twofold.run mixed).breaker.state = .closed := by decide
  have hrow : failuresInRow (twofold.steps mixed) = 1 := by decide +kernel
  refine ⟨⟨hnew, by decide, by decide⟩, hrow, (h.tells.closed hclosed).1.trans hrow, ?_⟩
  exact h.opensNow ⟨4.0, 3, _⟩ hclosed
    ((h.opens _ hclosed).mpr ⟨by decide, by rw [hrow]; decide⟩)

end Traffic

end BlockStorage
