import BlockStorage.Breaker
import BlockStorage.World

/-!
# The wire to a provider

What calls to a provider work with: the provider's client, the jitter of backoff
pauses, and the circuit breakers. `WireEvent` is what is reported of a call on
its way out and back.

* `Jitter`: a cyclic list of fractions.
* `Circuit`: which breaker a call goes through, if any.
* `Wire.breaker?`, `Wire.putBreaker`: looking a breaker up and writing it back.
-/

namespace BlockStorage

/-! ## What is sent and what comes back -/

/-- What the provider says to a request. A request for a list gets pages, each of which may fail
when it is reached. -/
inductive Reply
  | fault (f : Fault)
  | ok (d : Datum)
  | pages (ps : List (Except Fault Datum))

/-- A provider's client, which has a state of its own. -/
structure Client (χ : Type) where
  send : (region call : String) → (arguments : Fields) → χ → Reply × χ

/-! ## Events -/

inductive WireEvent
  | circuit (e : CircuitEvent)
  /-- A failed attempt, `attempt` of at most `total`, will be repeated after a pause. -/
  | retrying (why : Fault) (attempt total : Nat) (delay : Float)
  | gaveUp (why : Fault) (attempts : Nat)
  | slept (delay : Float)
  | opened (region : String) (endpoint : Option String)
  | sent (region call : String) (arguments : Fields) (reply : Reply)
  | failed (call region : String) (why : Fault)
  | took (call : String) (seconds : Float)

namespace WireEvent

def provider : String := "ec2"

def retryLogger : String := "blockhub.core.retryable"

def gatewayLogger : String := "blockhub.adapters.ec2.gateway"

/-- The log record of a repeated attempt: only verdicts that allow a repetition come here. -/
def retryFields (attempt : Nat) : Fields :=
  [("error_class", .text Verdict.retryable.text), ("attempt", .int attempt)]

/-- How a failed call is logged: a rejection by its code, a transport failure by its text. A
missing resource is not logged. -/
def failure? (call region : String) (why : Fault) : Option LogRecord :=
  let fields := LogRecord.about .remoteError .gateway ++ LogRecord.failing why.errorClass
  let record (detail : String) (more : Fields) : LogRecord :=
    ⟨.error, gatewayLogger, s!"EC2 {call} failed in {region}: {detail}",
      fields ++ more ++ [("region", .text region)]⟩
  match why with
  | .rejected r =>
    if Rejection.isNotFoundCode r.codeOrEmpty then none
    else some (record r.codeOrEmpty [("provider_code", .text r.codeOrEmpty)])
  | .transport t => some (record t.message [])
  | _ => none

/-- The log record of an event, if it has one. -/
def record? : WireEvent → Option LogRecord
  | circuit e => e.record?
  | retrying why attempt total delay =>
    let seconds := Decimal.fixed 1 delay
    let text := why.message
    some ⟨.warning, retryLogger,
      s!"Retryable error (attempt {attempt}/{total}, retry in {seconds}s): {text}",
      retryFields attempt ++ [("delay", .real delay)]⟩
  | gaveUp why attempts =>
    let text := why.message
    some ⟨.error, retryLogger, s!"Max retries exceeded ({attempts} attempts): {text}",
      retryFields attempts⟩
  | failed call region why => failure? call region why
  | _ => none

/-- What an event counts in the metrics. -/
def samples : WireEvent → List Sample
  | circuit e => e.samples
  | failed call _ why =>
    [⟨.gatewayErrors, [provider, call, Vocabulary.value why.errorClass], .add 1.0⟩]
  | took call seconds => [⟨.gatewayCallDuration, [provider, call], .observe seconds⟩]
  | _ => []

end WireEvent

/-! ## Jitter -/

/-- Fractions between zero and one that are used in turn. Without any, the fraction is a half. -/
structure Jitter where
  fractions : List Float := []
  used : Nat := 0

namespace Jitter

/-- The next fraction. -/
def next (j : Jitter) : Float × Jitter :=
  (j.fractions.getD (j.used % j.fractions.length) 0.5, { j with used := j.used + 1 })

end Jitter

/-! ## The wire -/

/-- Which breaker a call goes through. -/
inductive Circuit
  | none
  /-- The breaker that belongs to the caller. -/
  | own
  /-- A shared breaker that is made when it is first asked for. -/
  | shared (name : String)
  deriving DecidableEq

/-- What calls to a provider work with. -/
structure Wire (χ : Type) where
  client : χ
  own : Breaker := {}
  /-- The shared breakers, in the order in which they were made. -/
  shared : List (String × Breaker) := []
  jitter : Jitter := {}

namespace Wire

variable {χ : Type}

/-- Makes sure that a shared breaker exists. Its classifier counts only when it is made. -/
def ensure (name : String) (classify : Option Classifier) (w : Wire χ) : Wire χ :=
  if (w.shared.lookup name).isSome then w
  else { w with shared := w.shared ++ [(name, { name, classify })] }

/-- The breaker of a circuit, if it has one. -/
def breaker? (w : Wire χ) : Circuit → Option Breaker
  | .none => none
  | .own => some w.own
  | .shared name => w.shared.lookup name

/-- Writes the breaker of a circuit back. -/
def putBreaker (w : Wire χ) (c : Circuit) (b : Breaker) : Wire χ :=
  match c with
  | .none => w
  | .own => { w with own := b }
  | .shared name => { w with shared := w.shared.map fun e => if e.1 = name then (name, b) else e }

end Wire

end BlockStorage
