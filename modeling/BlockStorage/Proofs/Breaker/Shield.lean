import BlockStorage.Proofs.Breaker.Traffic
import BlockStorage.Proofs.Double.Difference

/-!
# An open circuit keeps calls from the provider

From the moment at which a circuit opens until its timeout has passed, every call
that arrives is rejected, whatever else settles meanwhile. Only calls from before
settle then, and all that they change is the count of failures.

* `Breaker.settle_of_opened`: what settles at an open circuit.
* `Traffic.Holds.after`: one moment at an open circuit; `Traffic.Holds.run`: a run.
* `Moment.not_isDue_of_le`: if the timeout has not passed for a call, it has not passed
  for any before.
* `Traffic.opened_shields`: the circuit from the moment at which it opens.
-/

namespace BlockStorage

/-! ## One step -/

namespace Breaker

variable {b : Breaker} {now t₀ : Float}

/-- The circuit is open, and opened at this time. -/
structure OpenSince (b : Breaker) (t₀ : Float) : Prop where
  state : b.state = .opened
  openedAt : b.openedAt = some t₀

theorem OpenSince.remaining (h : b.OpenSince t₀) (now : Float) :
    b.remaining now = b.timeout - (now - t₀) := by
  rw [Breaker.remaining, h.openedAt, Option.getD_some]

/-- At an open circuit what settles is counted at most. -/
theorem settle_of_opened (h : b.state = .opened) (now : Float) (fault : Option Fault) :
    ∃ n, (b.settle now fault).1 = { b with failures := n } := by
  cases fault with
  | none => exact ⟨0, by simp [settle, succeed, h]⟩
  | some f =>
    simp only [settle]
    split
    · exact ⟨b.failures, rfl⟩
    split
    · exact ⟨b.failures, rfl⟩
    · exact ⟨b.failures + 1, by simp [fail, h]⟩

theorem OpenSince.arrive_early (h : b.OpenSince t₀) (early : 0.0 < b.timeout - (now - t₀)) :
    b.arrive now = (.rejected (b.timeout - (now - t₀)), b,
      [.rejected b.name (b.timeout - (now - t₀))]) := by
  rw [← h.remaining] at early ⊢
  rw [arrive, if_pos h.state, if_pos early]

theorem OpenSince.arrive_due (h : b.OpenSince t₀) (due : ¬0.0 < b.timeout - (now - t₀)) :
    b.arrive now = (.passed, { b with successes := 0 }.goTo .halfOpen .none) := by
  rw [← h.remaining] at due
  rw [arrive, if_pos h.state, if_neg due]

theorem succeed_state_ne_opened (h : b.state ≠ .opened) : b.succeed.1.state ≠ .opened := by
  unfold succeed
  split
  · dsimp only
    split
    · exact CircuitState.noConfusion
    · exact h
  · exact h

/-- A circuit that opens notes the time. -/
theorem fail_openedAt (h : b.state ≠ .opened) (hopens : (b.fail now).1.state = .opened) :
    (b.fail now).1.OpenSince now := by
  refine ⟨hopens, ?_⟩
  unfold fail at hopens ⊢
  dsimp only at hopens ⊢
  split at hopens
  · next hcond => rw [if_pos hcond]; rfl
  · exact absurd hopens h

/-- Only what settles opens a circuit. -/
theorem settle_openSince (h : b.state ≠ .opened) {fault : Option Fault}
    (hopens : (b.settle now fault).1.state = .opened) : (b.settle now fault).1.OpenSince now := by
  cases fault with
  | none => exact absurd hopens (succeed_state_ne_opened h)
  | some f =>
    simp only [settle] at hopens ⊢
    split at hopens
    · exact absurd hopens h
    split at hopens
    · exact absurd hopens h
    · next handled counted =>
      rw [if_neg handled, if_neg counted]
      exact fail_openedAt h hopens

theorem arrive_of_ne_opened (h : b.state ≠ .opened) (now : Float) :
    b.arrive now = (.passed, b, []) := by
  rw [arrive, if_neg h]

end Breaker

namespace Traffic

/-- A circuit is open since the moment at which it opens. -/
theorem after_openSince {s : Traffic} {m : Moment} (shut : s.breaker.state ≠ .opened)
    (opens : (s.after m).breaker.state = .opened) : (s.after m).breaker.OpenSince m.now := by
  unfold after at opens ⊢
  split at opens
  · rw [Breaker.arrive_of_ne_opened shut] at opens
    exact absurd opens shut
  · next fault hwhat =>
    split at opens
    · next hmem =>
      rw [if_pos hmem]
      exact Breaker.settle_openSince shut opens
    · exact absurd opens shut

end Traffic

/-! ## Runs while the circuit is open -/

/-- The moment is that of a call for which the timeout of a circuit that opened at `t₀` has
passed. -/
def Moment.IsDue (timeout t₀ : Float) (m : Moment) : Prop :=
  m.what = .arrives ∧ ¬0.0 < timeout - (m.now - t₀)

/-- If the timeout has not passed for a call, it has not passed for any before. The remainders are
rounded, and so the order of the clock readings has to survive two subtractions. -/
theorem Moment.not_isDue_of_le {timeout t₀ now : Float} {m : Moment} (hle : m.now ≤ now)
    (early : 0.0 < timeout - (now - t₀)) : ¬m.IsDue timeout t₀ := fun due =>
  due.2 (Double.zero_lt_sub.mpr (Double.sub_lt_of_le hle (Double.zero_lt_sub.mp early)))

namespace Traffic

variable {s₀ s : Traffic} {m : Moment} {t₀ : Float}

/-- What is left of `s₀` while its circuit stays open. -/
structure Holds (s₀ s : Traffic) : Prop where
  breaker : ∃ n, s.breaker = { s₀.breaker with failures := n }
  /-- No attempt has begun. -/
  underway : s.underway ⊆ s₀.underway

theorem Holds.openSince (h : s₀.Holds s) (hopen : s₀.breaker.OpenSince t₀) :
    s.breaker.OpenSince t₀ := by
  obtain ⟨n, hn⟩ := h.breaker
  rw [hn]
  exact ⟨hopen.state, hopen.openedAt⟩

theorem Holds.timeout (h : s₀.Holds s) : s.breaker.timeout = s₀.breaker.timeout := by
  obtain ⟨n, hn⟩ := h.breaker
  rw [hn]

theorem Holds.arrive_early (h : s₀.Holds s) (hopen : s₀.breaker.OpenSince t₀) {now : Float}
    (early : 0.0 < s₀.breaker.timeout - (now - t₀)) :
    s.breaker.arrive now = (.rejected (s₀.breaker.timeout - (now - t₀)), s.breaker,
      [.rejected s.breaker.name (s₀.breaker.timeout - (now - t₀))]) := by
  rw [← h.timeout] at early ⊢
  exact (h.openSince hopen).arrive_early early

/-- A call for which the timeout has not passed leaves everything as it is. -/
theorem Holds.after_early (h : s₀.Holds s) (hopen : s₀.breaker.OpenSince t₀)
    (harrives : m.what = .arrives) (early : 0.0 < s₀.breaker.timeout - (m.now - t₀)) :
    s.after m = s := by
  rw [Traffic.after, harrives]
  simp only [h.arrive_early hopen early]

/-- Until a call is due, every moment keeps the circuit open. -/
theorem Holds.after (h : s₀.Holds s) (hopen : s₀.breaker.OpenSince t₀)
    (hdue : ¬m.IsDue s₀.breaker.timeout t₀) : s₀.Holds (s.after m) := by
  cases hwhat : m.what with
  | arrives =>
    rw [h.after_early hopen hwhat (not_not.mp fun due => hdue ⟨hwhat, due⟩)]
    exact h
  | settles fault =>
    rw [Traffic.after, hwhat]
    dsimp only
    split
    · obtain ⟨n, hn⟩ := h.breaker
      obtain ⟨n', hn'⟩ := Breaker.settle_of_opened (h.openSince hopen).state m.now fault
      refine ⟨⟨n', ?_⟩, fun c hc => h.underway (List.mem_of_mem_erase hc)⟩
      rw [hn', hn]
    · exact h

theorem Holds.run {ms : List Moment} (hopen : s₀.breaker.OpenSince t₀)
    (hdue : ∀ m ∈ ms, ¬m.IsDue s₀.breaker.timeout t₀) : s₀.Holds (s₀.run ms) :=
  run_induction ⟨⟨_, rfl⟩, fun _ hc => hc⟩ fun _ h m hm => h.after hopen (hdue m hm)

/-! ## From the moment at which it opens -/

/-- What a circuit that has opened at `t₀` makes of the moments that follow. -/
structure Shields (s : Traffic) (t₀ : Float) (later : List Moment) : Prop where
  /-- Until a call is due, the circuit stays open since `t₀`, whatever settles, and no attempt
  begins. -/
  stays : ∀ earlier rest, later = earlier ++ rest →
    (∀ m ∈ earlier, ¬m.IsDue s.breaker.timeout t₀) →
      (s.run earlier).breaker.OpenSince t₀ ∧ (s.run earlier).underway ⊆ s.underway
  /-- A call for which the timeout has not passed is turned away for what is left of it. -/
  rejects : ∀ earlier m rest, later = earlier ++ m :: rest → m.what = .arrives →
    0.0 < s.breaker.timeout - (m.now - t₀) →
      (s.run earlier).breaker.TurnsAway m.now (s.breaker.timeout - (m.now - t₀)) ∧
        s.run (earlier ++ [m]) = s.run earlier
  /-- The first call that is due is let through to the half-open circuit. -/
  probes : ∀ earlier m rest, later = earlier ++ m :: rest →
    (∀ m ∈ earlier, ¬m.IsDue s.breaker.timeout t₀) → m.IsDue s.breaker.timeout t₀ →
      let s' := s.run (earlier ++ [m])
      (s.run earlier).breaker.LetsThrough m.now s'.breaker ∧
        s'.underway = m.call :: (s.run earlier).underway ∧
        s'.breaker.state = .halfOpen ∧ s'.breaker.successes = 0

/-- Whatever happens at a circuit that opens, and in whatever order, it shields the provider. -/
theorem opened_shields {s : Traffic} {opening : Moment} {later : List Moment}
    (shut : s.breaker.state ≠ .opened) (opens : (s.after opening).breaker.state = .opened)
    (clock : later.Pairwise fun m m' => m.now ≤ m'.now) :
    (s.after opening).Shields opening.now later := by
  have hopen := after_openSince shut opens
  generalize s.after opening = s at hopen
  refine ⟨?_, ?_, ?_⟩
  · intro earlier rest _ hearly
    have hholds := Holds.run hopen hearly
    exact ⟨hholds.openSince hopen, hholds.underway⟩
  · rintro earlier m rest rfl harrives early
    have hearly : ∀ m' ∈ earlier, ¬m'.IsDue s.breaker.timeout opening.now := fun m' hm' =>
      Moment.not_isDue_of_le ((List.pairwise_append.mp clock).2.2 m' hm' m List.mem_cons_self) early
    have hholds := Holds.run hopen hearly
    refine ⟨Breaker.turnsAway_of_arrive (hholds.arrive_early hopen early), ?_⟩
    rw [run_append]
    exact hholds.after_early hopen harrives early
  · rintro earlier m rest _ hearly ⟨harrives, due⟩
    have hholds := Holds.run hopen hearly
    have harrive := (hholds.openSince hopen).arrive_due (hholds.timeout ▸ due)
    have hafter : s.run (earlier ++ [m]) = ⟨{ (s.run earlier).breaker with
        successes := 0, state := .halfOpen }, m.call :: (s.run earlier).underway⟩ := by
      rw [run_append, run_cons, run_nil, Traffic.after, harrives]
      simp only [harrive]
      rfl
    rw [hafter]
    exact ⟨Breaker.letsThrough_of_arrive harrive, rfl, rfl, rfl⟩

/-- A circuit that the first failure opens for a minute, with two calls underway. -/
def fragile : Traffic := { breaker := { failureThreshold := 1 }, underway := [0, 1] }

/-- One of the two fails. -/
def failing : Moment := ⟨100.0, 0, .settles (some (.transport .noRegion))⟩

/-- While the circuit is open the other ends well, and of three calls one is due. -/
def following : List Moment :=
  [⟨110.0, 2, .arrives⟩, ⟨120.0, 1, .settles none⟩, ⟨130.0, 3, .arrives⟩, ⟨160.0, 4, .arrives⟩]

theorem fragile_shields :
    (fragile.breaker.state ≠ .opened ∧ (fragile.after failing).breaker.state = .opened ∧
      following.Pairwise fun m m' => m.now ≤ m'.now) ∧
    ((fragile.after failing).run (following.take 2)).breaker.TurnsAway 130.0 30.0 ∧
    ((fragile.after failing).run following).breaker.state = .halfOpen := by
  have h : (fragile.after failing).Shields 100.0 following :=
    opened_shields (by decide) (by decide) (by decide)
  refine ⟨⟨by decide, by decide, by decide⟩, ?_, ?_⟩
  · have hleft : (fragile.after failing).breaker.timeout - ((130.0 : Float) - 100.0) = 30.0 := by
      decide
    rw [← hleft]
    exact (h.rejects (following.take 2) ⟨130.0, 3, .arrives⟩ _ rfl rfl (by decide)).1
  · have hbefore : ∀ m ∈ following.take 3, m.now ≤ (130.0 : Float) := by decide
    refine (h.probes (following.take 3) ⟨160.0, 4, .arrives⟩ [] rfl ?_ ⟨rfl, by decide⟩).2.2.1
    exact fun m hm => Moment.not_isDue_of_le (hbefore m hm) (by decide)

end Traffic

end BlockStorage
