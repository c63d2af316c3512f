import BlockStorage.Budget
import BlockStorage.Log.Record
import BlockStorage.Metric
import BlockStorage.World.Turns

/-!
# Waiting for a condition

A provider acknowledges a change before it is done. `Wait.run` looks at the state
that came back and then, at most as often as the budget allows, pauses, fetches
the state anew and looks again, until the condition holds or cannot hold any
more.

The first look is free. A state that counts as failed ends the wait before its
readiness is asked. A pause ends early when the caller's cancel event is set, and
does not begin once it is set; a fetch that is running is not cut short.

* `Wait.loop`: the looks, pauses and fetches; how it ended is an `Ending`.
* `Wait.conclude`: what an ending means to the caller, to the logs and to the
  metrics.
* `Wait.run`: the whole wait.
* `Wait.within`: a wait within the budget of an operation.
-/

namespace BlockStorage

/-! ## Events -/

/-- How a wait ended, as metrics tell it. -/
inductive WaitResult
  | satisfied | timeout | cancelled | failed | notFound
  deriving DecidableEq, Repr

def WaitResult.text : WaitResult → String
  | satisfied => "satisfied"
  | timeout => "timeout"
  | cancelled => "cancelled"
  | failed => "failed"
  | notFound => "not_found"

/-- What a wait reports. -/
inductive WaitEvent
  | started (condition : String) (attempts : Int) (delay : Float)
  /-- A pause that nothing can cut short. -/
  | slept (delay : Float)
  | refreshing (condition : String)
  /-- The one outcome of a wait, and how long it took. -/
  | ended (condition : String) (result : WaitResult) (seconds : Float)
  | satisfied (condition : String) (attempts : Nat)
  | timedOut (condition : String) (attempts : Nat)
  | cancelled (condition : String) (attempts : Nat)
  | failed (condition : String) (why : String)

namespace WaitEvent

def logger : String := "blockhub.core.poller"

/-- The fields of an event of a wait for a condition. -/
def fields (event : LogEvent) (condition : String) : Fields :=
  LogRecord.about event .poller ++ [("condition", .text condition)]

/-- The log record of an event, if it has one. -/
def record? : WaitEvent → Option LogRecord
  | started c n d =>
    let delay := Decimal.fixed 1 d
    some ⟨.info, logger, s!"Waiting for {c} (budget {n} x {delay}s)", fields .pollStarted c⟩
  | satisfied c n =>
    some ⟨.debug, logger, s!"Condition {c} satisfied after {n} refreshes",
      fields .pollSatisfied c ++ [("attempts", .int n)]⟩
  | timedOut c n =>
    some ⟨.warning, logger, s!"Condition {c} not reached after {n} refreshes",
      fields .pollTimeout c ++ LogRecord.failing .timeout ++ [("attempts", .int n)]⟩
  | cancelled c n =>
    some ⟨.info, logger, s!"Wait for {c} cancelled",
      fields .pollCancelled c ++ [("attempts", .int n)]⟩
  | failed c why =>
    some ⟨.error, logger, s!"Wait for {c} failed: {why}",
      fields .pollFailed c ++ LogRecord.failing .permanent⟩
  | _ => none

/-- What an event counts in the metrics. -/
def samples : WaitEvent → List Sample
  | refreshing c => [⟨.pollRefreshes, [c], .add 1.0⟩]
  | ended c r seconds =>
    [⟨.pollResults, [c, r.text], .add 1.0⟩, ⟨.pollDuration, [c], .observe seconds⟩]
  | _ => []

end WaitEvent

/-! ## Waits -/

instance : Viewed String := ⟨View.text⟩

/-- What is awaited of states of type `τ`, and how patiently. -/
structure Wait (τ : Type) where
  condition : String
  /-- How often the state may be fetched; less than zero allows no more than zero does. -/
  attempts : Int
  delay : Float
  ready : τ → Bool
  /-- The states from which the condition cannot be reached. -/
  failed : τ → Bool := fun _ => false
  /-- Whether a resource that is not found counts as ready. -/
  goneIsReady : Bool := false

/-- How the looking ended. -/
inductive Ending (τ : Type)
  | ready (last : τ)
  | gone
  | exhausted (last : τ)
  | failedState (last : τ)
  /-- A fault of the fetch, or the cancellation. -/
  | stopped (why : Fault)

namespace Wait

variable {τ ε γ : Type} [Viewed τ]

/-- The wait within the budget that is asked for; what is not asked for comes from the budget of an
operation. -/
def within (w : Wait τ) (settings : PollSettings) (operation : String) (attempts : Option Int)
    (delay : Option Float) : Wait τ :=
  let budget := settings.budgetFor operation
  { w with
    attempts := attempts.getD budget.maxAttempts
    delay := delay.getD budget.delay }

section Within

omit [Viewed τ]

variable (w : Wait τ) (settings : PollSettings) (operation : String) (attempts : Option Int)
  (delay : Option Float)

@[simp] theorem within_condition :
    (w.within settings operation attempts delay).condition = w.condition := rfl

/-- There are as many fetches as are asked for, or else as the operation's budget allows. -/
@[simp] theorem within_attempts : (w.within settings operation attempts delay).attempts =
    attempts.getD (settings.budgetFor operation).maxAttempts := rfl

/-- The pauses are as long as is asked for, or else as the operation's budget says. -/
@[simp] theorem within_delay : (w.within settings operation attempts delay).delay =
    delay.getD (settings.budgetFor operation).delay := rfl

end Within

/-- Pauses before a fetch; answers whether the pause was cut short. Only a pause that cannot be cut
short is a sleep. -/
def pause (report : WaitEvent → ε) (delay : Float) : StateM (World ε γ) Bool := fun w =>
  match w.cancel with
  | .absent => (false, (w.note (report (.slept delay))).pause delay 0)
  | .unset => (false, w.pause delay 1)
  | .from t =>
    if t ≤ w.now then (true, w)
    else if t < later w.now delay then (true, w.pauseUntil t)
    else (false, w.pause delay 1)

/-- Looks at a state with `left` fetches to go and `used` done; answers how it ended and after how
many fetches. -/
def loop (w : Wait τ) (report : WaitEvent → ε) (refresh : τ → Run (World ε γ) τ) :
    (left used : Nat) → τ → StateM (World ε γ) (Ending τ × Nat)
  | left, used, last =>
    if w.failed last then pure (.failedState last, used)
    else if w.ready last then pure (.ready last, used)
    else match left with
      | 0 => pure (.exhausted last, used)
      | left + 1 => do
        if used = 0 then
          modify (World.note (report (.started w.condition w.attempts w.delay)))
        if ← pause report w.delay then
          return (.stopped (.pollCancelled w.condition (Viewed.view last)), used)
        modify (World.note (report (.refreshing w.condition)))
        match ← refresh last with
        | .ok state => loop w report refresh left (used + 1) state
        | .error why =>
          if why.isNotFound && w.goneIsReady then return (.gone, used + 1)
          else return (.stopped why, used + 1)

/-- The outcome that metrics get from an ending; faults that mean nothing to the wait have none. -/
def result? : Ending τ → Option WaitResult
  | .ready _ | .gone => some .satisfied
  | .exhausted _ => some .timeout
  | .failedState _ => some .failed
  | .stopped (.notFound _ _) => some .notFound
  | .stopped (.pollCancelled _ _) => some .cancelled
  | .stopped (.remoteFailure _ _) => some .failed
  | .stopped _ => none

/-- The fault of a state that counts as failed. -/
def failedFault (w : Wait τ) (last : τ) : Fault :=
  .remoteFailure (w.condition ++ ": resource entered a failed state: " ++ (Viewed.view last).shown)
    "failed"

/-- What an ending means to the caller. -/
def answer (w : Wait τ) (attempts : Nat) : Ending τ → Except Fault (Option τ)
  | .ready last => .ok (some last)
  | .gone => .ok none
  | .exhausted last => .error (.pollTimeout w.condition attempts (Viewed.view last))
  | .failedState last => .error (w.failedFault last)
  | .stopped why => .error why

/-- What is logged of an ending. -/
def report? (w : Wait τ) (attempts : Nat) : Ending τ → Option WaitEvent
  | .ready _ => if attempts = 0 then none else some (.satisfied w.condition attempts)
  | .gone => none
  | .exhausted _ => some (.timedOut w.condition attempts)
  | .failedState last => some (.failed w.condition (w.failedFault last).message)
  | .stopped (.pollCancelled _ _) => some (.cancelled w.condition attempts)
  | .stopped (.remoteFailure text _) => some (.failed w.condition text)
  | .stopped _ => none

/-- Notes the outcome of a wait that began at `start`, and answers. -/
def conclude (w : Wait τ) (report : WaitEvent → ε) (start : Float) (ending : Ending τ)
    (attempts : Nat) : Run (World ε γ) (Option τ) := do
  if let some r := result? ending then
    modify fun world => world.note (report (.ended w.condition r (world.now - start)))
  if let some e := w.report? attempts ending then
    modify (World.note (report e))
  w.answer attempts ending

/-- Waits for the condition from a first state on. The answer is the state in which it held, or
nothing for a resource that is gone and need not be there. -/
def run (w : Wait τ) (report : WaitEvent → ε) (refresh : τ → Run (World ε γ) τ) (first : τ) :
    Run (World ε γ) (Option τ) := do
  let start := (← get).now
  let (ending, attempts) ← (w.loop report refresh w.attempts.toNat 0 first : StateM _ _)
  w.conclude report start ending attempts

end Wait

end BlockStorage
