import BlockStorage.Proofs.Breaker.Traffic
import Mathlib.Data.List.Induction

/-!
# What a moment does to a circuit

A moment does to a circuit one of a few things, which depend on the circuit's state
and on how a call ends there. What is known of a circuit after many moments follows
from this list alone.

* `Breaker.completion?`: whether the end of a call counts, and as what.
* `Breaker.Move`: what may happen to a circuit, with the condition for each.
* `Traffic.Step`: a moment and what it finds; `Traffic.steps`: those of a run.
* `Traffic.Step.move`: every moment does one of these things.
-/

namespace BlockStorage

/-- How a call ends, where the circuit counts it. -/
inductive Completion
  | success
  | failure
  deriving DecidableEq

namespace Breaker

/-- What the end of a call counts as. A failure that says nothing about the provider does not count,
and neither does a call that is aborted. -/
def completion? (b : Breaker) : Option Fault → Option Completion
  | none => some .success
  | some f => if f.isHandled && !b.ignores f then some .failure else none

/-- What may happen to a circuit, and what is counted of it. -/
inductive Move (b : Breaker) (now : Float) : Option Completion → Breaker → Prop
  | stays : Move b now none b
  | probes (h : b.state = .opened) : Move b now none { b with successes := 0, state := .halfOpen }
  | confirms (h : b.state = .halfOpen) (below : ¬ b.successThreshold ≤ (b.successes + 1 : Nat)) :
      Move b now (some .success) { b with successes := b.successes + 1 }
  | recovers (h : b.state = .halfOpen) (reached : b.successThreshold ≤ (b.successes + 1 : Nat)) :
      Move b now (some .success)
        { b with successes := b.successes + 1, failures := 0, state := .closed }
  | calms (h : b.state ≠ .halfOpen) : Move b now (some .success) { b with failures := 0 }
  | trips (h : b.state = .halfOpen ∨
        b.state = .closed ∧ b.failureThreshold ≤ (b.failures + 1 : Nat)) :
      Move b now (some .failure)
        { b with failures := b.failures + 1, openedAt := some now, state := .opened }
  | strains (h : ¬ (b.state = .halfOpen ∨
        b.state = .closed ∧ b.failureThreshold ≤ (b.failures + 1 : Nat))) :
      Move b now (some .failure) { b with failures := b.failures + 1 }

variable {b b' : Breaker} {now : Float} {completion : Option Completion}

theorem Move.failureThreshold (h : b.Move now completion b') :
    b'.failureThreshold = b.failureThreshold := by
  cases h <;> rfl

theorem Move.successThreshold (h : b.Move now completion b') :
    b'.successThreshold = b.successThreshold := by
  cases h <;> rfl

theorem Move.name (h : b.Move now completion b') : b'.name = b.name := by
  cases h <;> rfl

theorem Move.classify (h : b.Move now completion b') : b'.classify = b.classify := by
  cases h <;> rfl

/-- An arrival half-opens a circuit that is due, and does nothing else to any. -/
theorem move_arrive (b : Breaker) (now : Float) : b.Move now none (b.arrive now).2.1 := by
  rw [arrive]
  split
  · next hopen =>
    split
    · exact .stays
    · exact .probes hopen
  · exact .stays

theorem move_succeed (b : Breaker) (now : Float) : b.Move now (some .success) b.succeed.1 := by
  rw [succeed]
  split
  · next hhalf =>
    dsimp only
    split
    · next hreached => exact .recovers hhalf hreached
    · next hbelow => exact .confirms hhalf hbelow
  · next hother => exact .calms hother

theorem move_fail (b : Breaker) (now : Float) : b.Move now (some .failure) (b.fail now).1 := by
  rw [fail]
  dsimp only
  split
  · next htrips => exact .trips htrips
  · next hstrains => exact .strains hstrains

theorem move_settle (b : Breaker) (now : Float) (fault : Option Fault) :
    b.Move now (b.completion? fault) (b.settle now fault).1 := by
  cases fault with
  | none => exact b.move_succeed now
  | some f =>
    rw [settle, completion?]
    cases f.isHandled with
    | false => exact .stays
    | true =>
      cases b.ignores f with
      | true => exact .stays
      | false => exact b.move_fail now

end Breaker

namespace Traffic

/-- A moment, and what it finds. -/
structure Step where
  before : Traffic
  moment : Moment

namespace Step

/-- What the moment leaves behind. -/
def after (x : Step) : Traffic := x.before.after x.moment

/-- What ends at the moment, if it counts. -/
def completion? (x : Step) : Option Completion :=
  match x.moment.what with
  | .arrives => none
  | .settles fault =>
    if x.moment.call ∈ x.before.underway then x.before.breaker.completion? fault else none

def succeeds (x : Step) : Bool := x.completion? = some .success

def fails (x : Step) : Bool := x.completion? = some .failure

/-- Whether the circuit comes into a state at the moment. -/
def enters (state : CircuitState) (x : Step) : Bool :=
  x.before.breaker.state ≠ state ∧ x.after.breaker.state = state

/-- **Every moment does one of a few things to the circuit.** -/
theorem move (x : Step) : x.before.breaker.Move x.moment.now x.completion? x.after.breaker := by
  rw [after, completion?, Traffic.after]
  cases x.moment.what with
  | arrives =>
    have hmove := x.before.breaker.move_arrive x.moment.now
    dsimp only
    split
    · next b _ harrive =>
      rw [harrive] at hmove
      exact hmove
    · next b _ harrive =>
      rw [harrive] at hmove
      exact hmove
  | settles fault =>
    dsimp only
    split
    · exact x.before.breaker.move_settle x.moment.now fault
    · exact .stays

end Step

/-- What moments do, one after the other. -/
def steps (s : Traffic) : List Moment → List Step
  | [] => []
  | m :: ms => ⟨s, m⟩ :: steps (s.after m) ms

theorem steps_append (s : Traffic) (ms ms' : List Moment) :
    s.steps (ms ++ ms') = s.steps ms ++ (s.run ms).steps ms' := by
  induction ms generalizing s with
  | nil => rfl
  | cons m ms ih => exact congrArg _ (ih (s.after m))

/-- What is so at first, and is kept by every step of a run, is so after the run. -/
theorem steps_induction {P : Traffic → List Step → Prop} {s : Traffic} (start : P s [])
    (step : ∀ xs x, P x.before xs → P x.after (xs ++ [x])) (ms : List Moment) :
    P (s.run ms) (s.steps ms) := by
  induction ms using List.reverseRecOn with
  | nil => exact start
  | append_singleton ms m ih =>
    rw [run_append, steps_append]
    exact step (s.steps ms) ⟨s.run ms, m⟩ ih

/-- No moment changes the thresholds of a circuit. -/
theorem run_thresholds (s : Traffic) (ms : List Moment) :
    (s.run ms).breaker.failureThreshold = s.breaker.failureThreshold ∧
      (s.run ms).breaker.successThreshold = s.breaker.successThreshold :=
  run_induction (P := fun s' => s'.breaker.failureThreshold = s.breaker.failureThreshold ∧
    s'.breaker.successThreshold = s.breaker.successThreshold) ⟨rfl, rfl⟩ fun s' h m _ =>
      have hmove := Step.move ⟨s', m⟩
      ⟨hmove.failureThreshold.trans h.1, hmove.successThreshold.trans h.2⟩

end Traffic

end BlockStorage
