import BlockStorage.Proofs.Breaker.Traffic
import BlockStorage.Proofs.Retry
import BlockStorage.Proofs.Retry.Delay

/-!
# The meaning of a retried call

A retried call makes attempts up to the first one that ends it, and then is that attempt.
Each attempt is one call through the breaker, so it is made once or, where the breaker
rejects it, not at all. Between two attempts there is one pause.

* `RetryPolicy.Calls`: a call through the breaker.
* `RetryPolicy.Meaning`: the attempts of a retried call, and what follows from them.
  `RetryPolicy.Overrun`: a call that ends before that, where a pause cannot be computed.
* `RetryPolicy.run_iff_meaning`: where its pauses can be computed, a retried call has a run
  exactly if that has this meaning.
-/

namespace BlockStorage

namespace RetryPolicy

variable {χ α : Type} {p : RetryPolicy} {attempt : Run (World WireEvent (Wire χ)) α}
  {failures : Nat} {s last : Start χ} {before : List (Failure χ)} {outcome : Except Fault α}
  {w : World WireEvent (Wire χ)}

/-! ## One attempt -/

/-- One call through the breaker: what it comes to, and the world that it leaves. -/
inductive Calls (p : RetryPolicy) (attempt : Run (World WireEvent (Wire χ)) α) (s : Start χ) :
    Except Fault α × World WireEvent (Wire χ) → Prop
  /-- Without a breaker the call is the attempt. -/
  | bare (h : s.wire.breaker? p.circuit = none) : Calls p attempt s (attempt.run.run s.world)
  /-- The attempt is made once, and settles at the breaker. -/
  | admitted {b b' : Breaker} {events : List CircuitEvent}
      (h : s.wire.breaker? p.circuit = some b) (hpassed : b.arrive s.now = (.passed, b', events)) :
      Calls p attempt s ((attempt.run >>= p.conclude).run
        { s.world with
          remote := s.wire.putBreaker p.circuit b'
          journal := events.map .circuit })
  /-- The attempt is not made. -/
  | rejected {b : Breaker} {retryAfter : Float} (h : s.wire.breaker? p.circuit = some b)
      (hrejected : b.arrive s.now = (.rejected retryAfter, b, [.rejected b.name retryAfter])) :
      Calls p attempt s (.error (.circuitOpen b.name (.real retryAfter)),
        { s.world with
          remote := s.wire.putBreaker p.circuit b
          journal := [.circuit (.rejected b.name retryAfter)] })

theorem tried_calls (p : RetryPolicy) (attempt : Run (World WireEvent (Wire χ)) α) (s : Start χ) :
    p.Calls attempt s (p.tried attempt s) := by
  rw [tried]
  cases hb : s.wire.breaker? p.circuit with
  | none =>
    rw [guarded_bare (w := s.world) hb]
    exact .bare hb
  | some b =>
    obtain ⟨b', events, hpassed, -⟩ | ⟨retryAfter, hrejected⟩ := b.arrive_cases s.now
    · rw [guarded_passed (w := s.world) hb hpassed]
      exact .admitted hb hpassed
    · rw [guarded_rejected (w := s.world) hb hrejected]
      exact .rejected hb hrejected

/-- What is reported after an attempt that ends a call: that the call gives up, if the attempt
failed in a way that may pass. -/
def givingUp (p : RetryPolicy) : Except Fault α → List WireEvent
  | .ok _ => []
  | .error why => if p.Repeats why then [.gaveUp why (p.maxRetries + 1)] else []

theorem givingUp_eq_nil (h : ∀ why, outcome = .error why → ¬ p.Repeats why) :
    p.givingUp outcome = [] := by
  cases outcome with
  | ok a => rfl
  | error why => exact if_neg (h why rfl)

/-- An attempt ends a call exactly if it is the last one allowed, or did not fail in a way that may
pass, or the pause before the next one cannot be computed. -/
theorem ends_iff :
    p.Ends attempt failures s outcome w ↔
      (outcome = (p.tried attempt s).1 ∧
        (failures = p.maxRetries ∨ ∀ why, outcome = .error why → ¬ p.Repeats why) ∧
        w = (p.tried attempt s).2.noteAll (p.givingUp outcome)) ∨
      ((∃ why, (p.tried attempt s).1 = .error why ∧ p.Repeats why) ∧ failures < p.maxRetries ∧
        p.scattered? failures (fraction (p.tried attempt s).2) = none ∧
        outcome = .error (.misuse .tooLarge) ∧ w = p.drawn failures (p.tried attempt s).2) := by
  constructor
  · intro h
    cases h with
    | last h =>
      refine .inl ⟨rfl, .inr h, ?_⟩
      rw [givingUp_eq_nil h, World.noteAll, List.append_nil]
    | exhausted h hwhy hlast =>
      refine .inl ⟨h.symm, .inl hlast, ?_⟩
      rw [givingUp, if_pos hwhy]
      rfl
    | overdue h hwhy hfew hnone => exact .inr ⟨⟨_, h, hwhy⟩, hfew, hnone, rfl, rfl⟩
  · rintro (⟨rfl, hlast, rfl⟩ | ⟨⟨why, h, hwhy⟩, hfew, hnone, rfl, rfl⟩)
    · by_cases h : ∀ why, (p.tried attempt s).1 = .error why → ¬ p.Repeats why
      · rw [givingUp_eq_nil h, World.noteAll, List.append_nil]
        exact .last h
      · rw [or_iff_left h] at hlast
        obtain ⟨why, hwhy⟩ := not_forall.mp h
        obtain ⟨houtcome, hrepeats⟩ := Classical.not_imp.mp hwhy
        rw [houtcome, givingUp, if_pos (not_not.mp hrepeats)]
        exact .exhausted houtcome (not_not.mp hrepeats) hlast
    · exact .overdue h hwhy hfew hnone

/-! ## All attempts -/

/-- When the attempts of a call begin. -/
def starts (before : List (Failure χ)) (last : Start χ) : List (Start χ) :=
  before.map Failure.start ++ [last]

theorem account_iff :
    p.Account attempt failures s before last outcome w ↔
      (starts before last).head? = some s ∧
        (∀ (k : Nat) (h : k < before.length), p.Repeated attempt (failures + k) before[k]) ∧
        p.Ends attempt (failures + before.length) last outcome w := by
  constructor
  · intro h
    induction h with
    | ends h => exact ⟨rfl, fun k hk => absurd hk (Nat.not_lt_zero k), h⟩
    | @again failures x s last before outcome w h rest ih =>
      obtain ⟨-, hrepeated, hends⟩ := ih
      refine ⟨rfl, fun k hk => ?_, ?_⟩
      · cases k with
        | zero => exact h
        | succ k =>
          rw [← Nat.succ_add_eq_add_succ]
          exact hrepeated k (Nat.lt_of_succ_lt_succ hk)
      · rwa [List.length_cons, ← Nat.succ_add_eq_add_succ]
  · induction before generalizing failures s with
    | nil =>
      rintro ⟨hfirst, -, hends⟩
      obtain rfl := Option.some.inj hfirst
      exact .ends hends
    | cons x before ih =>
      rintro ⟨hfirst, hrepeated, hends⟩
      obtain rfl := Option.some.inj hfirst
      obtain ⟨s, hs⟩ : ∃ s, (starts before last).head? = some s := by
        cases before <;> exact ⟨_, rfl⟩
      refine .again (hrepeated 0 (Nat.zero_lt_succ _)) (ih ⟨hs, fun k hk => ?_, ?_⟩)
      · rw [Nat.succ_add_eq_add_succ]
        exact hrepeated (k + 1) (Nat.succ_lt_succ hk)
      · rwa [Nat.succ_add_eq_add_succ]

/-- **The meaning of a retried call** that begins at `first`: the attempts that another one follows,
and the one that ends it. -/
structure Meaning (p : RetryPolicy) (attempt : Run (World WireEvent (Wire χ)) α) (first : Start χ)
    (before : List (Failure χ)) (last : Start χ) (delays : List Float) (trace : List WireEvent)
    (answer : Except Fault α) : Prop where
  begins : (starts before last).head? = some first
  /-- Each attempt is one call through the breaker. -/
  calls : ∀ s ∈ starts before last, p.Calls attempt s (p.tried attempt s)
  /-- Each but the last failed in a way that may pass, and was not the last one allowed. -/
  repeated : ∀ (k : Nat) (h : k < before.length), p.Repeated attempt k before[k]
  /-- The last is the last one allowed, or did not fail in a way that may pass. -/
  ends : before.length = p.maxRetries ∨ ∀ why, answer = .error why → ¬ p.Repeats why
  /-- The call is its last attempt. -/
  answers : answer = (p.tried attempt last).1
  /-- One pause follows each attempt but the last. -/
  pauses : delays = before.map Failure.delay
  reports : trace =
    p.reportsOf attempt 0 before ++ (p.tried attempt last).2.journal ++ p.givingUp answer

/-- A retried call that ends where a pause cannot be computed, with a fault of its own. -/
structure Overrun (p : RetryPolicy) (attempt : Run (World WireEvent (Wire χ)) α) (first : Start χ)
    (before : List (Failure χ)) (last : Start χ) (delays : List Float) (trace : List WireEvent)
    (answer : Except Fault α) : Prop where
  begins : (starts before last).head? = some first
  repeated : ∀ (k : Nat) (h : k < before.length), p.Repeated attempt k before[k]
  fails : ∃ why, (p.tried attempt last).1 = .error why ∧ p.Repeats why
  few : before.length < p.maxRetries
  late : p.scattered? before.length (fraction (p.tried attempt last).2) = none
  answers : answer = .error (.misuse .tooLarge)
  pauses : delays = before.map Failure.delay
  reports : trace = p.reportsOf attempt 0 before ++ (p.tried attempt last).2.journal

/-- A retried call has a meaning, or a pause of it cannot be computed. -/
theorem run_iff (p : RetryPolicy) (attempt : Run (World WireEvent (Wire χ)) α) (now : Float)
    (wire : Wire χ) (delays : List Float) (trace : List WireEvent) (answer : Except Fault α) :
    (p.run attempt pure now wire).Rests delays trace answer ↔
      ∃ before last, p.Meaning attempt ⟨now, p.prepared wire⟩ before last delays trace answer ∨
        p.Overrun attempt ⟨now, p.prepared wire⟩ before last delays trace answer := by
  rw [run_rests_iff]
  constructor
  · rintro ⟨before, last, outcome, w, haccount, hpauses, rfl, rfl⟩
    obtain ⟨hbegins, hrepeated, hends⟩ := account_iff.mp haccount
    simp only [Nat.zero_add] at hrepeated hends
    refine ⟨before, last, ?_⟩
    obtain ⟨houtcome, hlast, rfl⟩ | ⟨hfails, hfew, hnone, houtcome, rfl⟩ := ends_iff.mp hends
    · exact .inl ⟨hbegins, fun s _ => p.tried_calls attempt s, hrepeated, hlast, houtcome, hpauses,
        (List.append_assoc ..).symm⟩
    · exact .inr ⟨hbegins, hrepeated, hfails, hfew, hnone, houtcome, hpauses,
        congrArg _ (drawn_journal ..)⟩
  · rintro ⟨before, last, h | h⟩
    · refine ⟨before, last, answer, (p.tried attempt last).2.noteAll (p.givingUp answer),
        account_iff.mpr ⟨h.begins, ?_, ?_⟩, h.pauses, h.reports.trans (List.append_assoc ..), rfl⟩
      · simpa only [Nat.zero_add] using h.repeated
      · rw [Nat.zero_add]
        exact ends_iff.mpr (.inl ⟨h.answers, h.ends, rfl⟩)
    · refine ⟨before, last, answer, p.drawn before.length (p.tried attempt last).2,
        account_iff.mpr ⟨h.begins, ?_, ?_⟩, h.pauses, ?_, rfl⟩
      · simpa only [Nat.zero_add] using h.repeated
      · rw [Nat.zero_add]
        exact ends_iff.mpr (.inr ⟨h.fails, h.few, h.late, h.answers, rfl⟩)
      · exact h.reports.trans (congrArg _ (drawn_journal ..).symm)

end RetryPolicy

end BlockStorage
