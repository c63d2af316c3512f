import BlockStorage.Fault.Verdict
import BlockStorage.Log.Record
import BlockStorage.Metric

/-!
# Circuit breakers

A `Breaker` stands in front of a provider and stops calls while the provider is
judged unhealthy. It is closed at first. Failures in a row open it; while it is
open, calls are rejected without reaching the provider. When its timeout has
passed, the next call half-opens it, and a few successes close it again, while a
single failure opens it anew.

Calls overlap, so a call is two events and not one: it arrives, and some time
later it settles. `Breaker.arrive` and `Breaker.settle` are these two steps.

Permanent failures say nothing about the health of the provider and count
neither way.
-/

namespace BlockStorage

inductive CircuitState
  | closed | opened | halfOpen
  deriving DecidableEq, Repr

instance : Vocabulary CircuitState where
  title := "CircuitState"
  all := [.closed, .opened, .halfOpen]
  value
    | .closed => "closed"
    | .opened => "open"
    | .halfOpen => "half_open"

/-- The value under which metrics show a state. -/
def CircuitState.level : CircuitState → Float
  | closed => 0.0
  | halfOpen => 1.0
  | opened => 2.0

/-! ## Events -/

/-- What a breaker counted when it changed its state. -/
inductive Tally
  | none
  | successes (n : Nat)
  | failures (n : Nat)
  deriving DecidableEq, Repr

def Tally.fields : Tally → Fields
  | none => []
  | successes n => [("success_count", .int n)]
  | failures n => [("failure_count", .int n)]

/-- What a breaker reports. -/
inductive CircuitEvent
  | changed (circuit : String) (before after : CircuitState) (tally : Tally)
  | rejected (circuit : String) (retryAfter : Float)
  | completed (circuit : String) (success : Bool)

namespace CircuitEvent

def logger : String := "blockhub.core.circuit_breaker"

/-- The log record of an event, if it has one. -/
def record? : CircuitEvent → Option LogRecord
  | changed c before after tally =>
    let (a, b) := (Vocabulary.value before, Vocabulary.value after)
    some ⟨.info, logger, s!"Circuit {c}: {a} -> {b}",
      LogRecord.about .stateChanged .gateway ++ [("circuit", .text c)] ++ tally.fields⟩
  | rejected c retryAfter =>
    some ⟨.warning, logger, s!"Circuit {c} open, rejecting call",
      [("event", .text (Vocabulary.value LogEvent.operationFailed)), ("circuit", .text c),
        ("retry_after", .real retryAfter)]⟩
  | completed _ _ => none

/-- What an event counts in the metrics. -/
def samples : CircuitEvent → List Sample
  | changed c _ after _ => [⟨.breakerState, [c], .set after.level⟩]
  | rejected c _ => [⟨.breakerRejections, [c], .add 1.0⟩]
  | completed c success =>
    [⟨.breakerCalls, [c, if success then "success" else "failure"], .add 1.0⟩]

end CircuitEvent

/-! ## Breakers -/

structure Breaker where
  name : String := "default"
  /-- Failures in a row that open the circuit. -/
  failureThreshold : Int := 5
  /-- Successes that close the half-open circuit. -/
  successThreshold : Int := 2
  /-- Seconds that the circuit stays open before it is probed. -/
  timeout : Float := 60.0
  /-- Tells permanent failures; without it every failure counts. -/
  classify : Option Classifier := none
  state : CircuitState := .closed
  failures : Nat := 0
  successes : Nat := 0
  openedAt : Option Float := none

/-- What becomes of a call that arrives. -/
inductive Arrival
  | passed
  | rejected (retryAfter : Float)

namespace Breaker

/-- How long the circuit still has to stay open. -/
def remaining (b : Breaker) (now : Float) : Float :=
  b.timeout - (now - b.openedAt.getD 0.0)

/-- Goes to a state and reports it. -/
def goTo (b : Breaker) (state : CircuitState) (tally : Tally) : Breaker × List CircuitEvent :=
  ({ b with state }, [.changed b.name b.state state tally])

/-- A call arrives. -/
def arrive (b : Breaker) (now : Float) : Arrival × Breaker × List CircuitEvent :=
  if b.state = .opened then
    if 0.0 < b.remaining now then
      (.rejected (b.remaining now), b, [.rejected b.name (b.remaining now)])
    else (.passed, { b with successes := 0 }.goTo .halfOpen .none)
  else (.passed, b, [])

/-- Counts a success. -/
def succeed (b : Breaker) : Breaker × List CircuitEvent :=
  if b.state = .halfOpen then
    let b := { b with successes := b.successes + 1 }
    if b.successThreshold ≤ b.successes then
      { b with failures := 0 }.goTo .closed (.successes b.successes)
    else (b, [])
  else ({ b with failures := 0 }, [])

/-- Counts a failure. -/
def fail (b : Breaker) (now : Float) : Breaker × List CircuitEvent :=
  let b := { b with failures := b.failures + 1 }
  if b.state = .halfOpen ∨ (b.state = .closed ∧ b.failureThreshold ≤ b.failures) then
    { b with openedAt := some now }.goTo .opened (.failures b.failures)
  else (b, [])

/-- Whether a fault says nothing about the health of the provider. -/
def ignores (b : Breaker) (f : Fault) : Bool := b.classify.any fun judge => judge f = .permanent

/-- A call that had been let through settles, with a fault or without. An aborted call leaves no
trace. -/
def settle (b : Breaker) (now : Float) (fault : Option Fault) : Breaker × List CircuitEvent :=
  match fault with
  | none =>
    let (b', events) := b.succeed
    (b', .completed b.name true :: events)
  | some f =>
    if !f.isHandled then (b, [])
    else if b.ignores f then (b, [.completed b.name false])
    else
      let (b', events) := b.fail now
      (b', .completed b.name false :: events)

end Breaker

end BlockStorage
