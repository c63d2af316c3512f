import BlockStorage.Wire

/-!
# Retrying with backoff

A call that fails in a way that may pass is repeated, each time after a longer
pause. The pause before the next attempt doubles from a base up to a ceiling and
is then scattered between half and one and a half of itself.

Each attempt goes through the circuit breaker of its own, so a circuit that opens
while a call is being retried ends it.

* `RetryPolicy.delay?`: the pause after a number of failures, before scattering.
* `RetryPolicy.turn`: one attempt and what follows from it.
* `RetryPolicy.run`: all attempts, as a call that pauses between them.
-/

namespace BlockStorage

structure RetryPolicy where
  /-- Attempts after the first. -/
  maxRetries : Nat := 3
  baseDelay : Amount := .real 1.0
  maxDelay : Amount := .real 30.0
  circuit : Circuit := .none
  judge : Classifier := Fault.classify

/-- What follows from an attempt with so many repetitions left. -/
inductive Turn (α : Type) : Nat → Type
  | ended {left : Nat} (outcome : Except Fault α) : Turn α left
  /-- Another attempt follows after this pause. -/
  | again {left : Nat} (delay : Float) : Turn α (left + 1)

namespace RetryPolicy

variable {χ α β : Type}

/-- The pause after `failures` repetitions, before it is scattered; `none` where it cannot be
computed. -/
def delay? (p : RetryPolicy) (failures : Nat) : Option Amount :=
  (p.baseDelay.doubled? failures).map fun d => d.min p.maxDelay

/-- The pause scattered by a fraction. -/
def scattered? (p : RetryPolicy) (failures : Nat) (fraction : Float) : Option Float :=
  (p.delay? failures).bind fun d => d.scaled? (0.5 + fraction)

/-- What is reported of an attempt's way through the breaker. -/
def reportCircuit (es : List CircuitEvent) : StateM (World WireEvent (Wire χ)) Unit :=
  modify (World.noteAll (es.map .circuit))

/-- Writes the breaker back. -/
def writeBreaker (p : RetryPolicy) (b : Breaker) : StateM (World WireEvent (Wire χ)) Unit :=
  modify fun w => { w with remote := w.remote.putBreaker p.circuit b }

/-- One attempt behind the policy's breaker. -/
def guarded (p : RetryPolicy) (attempt : Run (World WireEvent (Wire χ)) α) :
    StateM (World WireEvent (Wire χ)) (Except Fault α) := do
  let w ← get
  match w.remote.breaker? p.circuit with
  | none => attempt.run
  | some b =>
    let (arrival, b, events) := b.arrive w.now
    p.writeBreaker b
    reportCircuit events
    match arrival with
    | .rejected retryAfter => return .error (.circuitOpen b.name (.real retryAfter))
    | .passed =>
      let outcome ← attempt.run
      let w ← get
      if let some b := w.remote.breaker? p.circuit then
        let fault := match outcome with
          | .ok _ => none
          | .error f => some f
        let (b, events) := b.settle w.now fault
        p.writeBreaker b
        reportCircuit events
      return outcome

/-- Whether a fault ends the retrying whatever the policy's judge says. -/
def isFinal : Fault → Bool
  | .circuitOpen _ _ => true
  | f => !f.isHandled

/-- Only a rejection by the breaker and the abort of the task end it so. -/
theorem isFinal_iff {why : Fault} : isFinal why = true ↔
    (∃ name retryAfter, why = .circuitOpen name retryAfter) ∨ why = .aborted := by
  cases why <;> simp [isFinal, Fault.isHandled]

/-- What follows from a failure that may pass: a pause, or the end if no repetition is left. -/
def backOff (p : RetryPolicy) (why : Fault) :
    (left : Nat) → StateM (World WireEvent (Wire χ)) (Turn α left)
  | 0 => do
    modify (World.note (.gaveUp why (p.maxRetries + 1)))
    return .ended (.error why)
  | left + 1 => do
    let failures := p.maxRetries - (left + 1)
    if (p.delay? failures).isNone then return .ended (.error (.misuse .tooLarge))
    let w ← get
    let (fraction, jitter) := w.remote.jitter.next
    set { w with remote := { w.remote with jitter } }
    match p.scattered? failures fraction with
    | none => return .ended (.error (.misuse .tooLarge))
    | some delay =>
      modify (World.noteAll
        [.retrying why (failures + 1) (p.maxRetries + 1) delay, .slept delay])
      return .again delay

/-- One attempt, and what follows from it. -/
def turn (p : RetryPolicy) (attempt : Run (World WireEvent (Wire χ)) α) (left : Nat) :
    StateM (World WireEvent (Wire χ)) (Turn α left) := do
  match ← p.guarded attempt with
  | .ok a => return .ended (.ok a)
  | .error why =>
    if isFinal why || p.judge why ≠ .retryable then return .ended (.error why)
    else p.backOff why left

/-- The last leg: `conclude` makes the answer of the outcome. -/
def concluded {pauses : Nat}
    (conclude : Except Fault α → StateM (World WireEvent (Wire χ)) β) (outcome : Except Fault α)
    (w : World WireEvent (Wire χ)) : Leg WireEvent (Wire χ) β pauses :=
  let (answer, w) := (conclude outcome).run w
  .done ⟨w.remote, w.journal, false⟩ answer

/-- Attempts with `left` repetitions to go; `conclude` makes the answer of the outcome, still in
the last leg. -/
def attempts (p : RetryPolicy) (attempt : Run (World WireEvent (Wire χ)) α)
    (conclude : Except Fault α → StateM (World WireEvent (Wire χ)) β) :
    (left : Nat) → Float → Wire χ → Leg WireEvent (Wire χ) β left
  | 0, now, wire =>
    match (p.turn attempt 0).run { now, remote := wire } with
    | (.ended outcome, w) => concluded conclude outcome w
  | rest + 1, now, wire =>
    match (p.turn attempt (rest + 1)).run { now, remote := wire } with
    | (.ended outcome, w) => concluded conclude outcome w
    | (.again delay, w) =>
      .paused ⟨w.remote, w.journal, false⟩ delay (attempts p attempt conclude rest)

/-- A call that is retried. A shared breaker is made before the first attempt. -/
def run (p : RetryPolicy) (attempt : Run (World WireEvent (Wire χ)) α)
    (conclude : Except Fault α → StateM (World WireEvent (Wire χ)) β) (now : Float)
    (wire : Wire χ) : Leg WireEvent (Wire χ) β p.maxRetries :=
  let wire := match p.circuit with
    | .shared name => wire.ensure name (some Fault.classify)
    | _ => wire
  p.attempts attempt conclude p.maxRetries now wire

end RetryPolicy

end BlockStorage
