import BlockStorage.Agenda
import BlockStorage.Leg

/-!
# The world of a run

What the library works in: a clock, the caller's cancel event, whatever lies
beyond the library, and a journal of everything that was done. The clock is a
number of seconds; nothing here reads a real one.

Besides the caller there may be strays, calls whose caller has given up on them.
They go on whenever the caller pauses.

* `Cancel`: the caller's means to cut waits short.
* `World`: clock, cancel event, remote side, journal, and who goes on when.
* `Run`: a step that changes the world and answers or fails.
-/

namespace BlockStorage

/-! ## Cancellation -/

inductive Cancel
  /-- The caller has no such event. -/
  | absent
  /-- The event is not set, and no time is fixed at which it will be. -/
  | unset
  /-- The event is set from this time on. -/
  | from (time : Float)

namespace Cancel

/-- Whether the event is set at a time. -/
def isSetAt : Cancel → Float → Bool
  | .from t, now => t ≤ now
  | _, _ => false

/-- Sets the event, if there is one. -/
def setAt (c : Cancel) (now : Float) : Cancel :=
  match c with
  | absent => absent
  | unset => .from now
  | .from t => .from (if t ≤ now then t else now)

end Cancel

/-! ## Worlds -/

/-- The events of a journal have type `ε` and stand in the order in which they happened; the remote
side has type `γ`. -/
structure World (ε γ : Type) where
  now : Float := 0.0
  cancel : Cancel := .absent
  remote : γ
  journal : List ε := []
  agenda : Agenda := {}
  strays : List (Pending ε γ Unit) := []
  /-- The last number that was given to a call. -/
  issued : Nat := 0

/-- A step of a run: it changes the world and answers or fails. -/
abbrev Run (ω α : Type) := ExceptT Fault (StateM ω) α

/-- The outcome of a step, whether it answered or failed. -/
def Run.outcome {ω α : Type} (step : Run ω α) : Run ω (Except Fault α) := ExceptT.lift step.run

/-- The time after a pause; one that is not positive takes no time. -/
def later (now delay : Float) : Float := if 0.0 < delay then now + delay else now

namespace World

variable {ε γ : Type}

/-- Writes an event into the journal. -/
def note (e : ε) (w : World ε γ) : World ε γ := { w with journal := w.journal ++ [e] }

/-- Writes events into the journal. -/
def noteAll (es : List ε) (w : World ε γ) : World ε γ := { w with journal := w.journal ++ es }

/-- Lets the clock run on to a time. -/
def runTo (time : Float) (w : World ε γ) : World ε γ := { w with now := time }

/-- The world after a leg. -/
def haltedBy (s : Halt ε γ) (w : World ε γ) : World ε γ :=
  { w with
    cancel := if s.cancels then w.cancel.setAt w.now else w.cancel
    remote := s.remote
    journal := w.journal ++ s.trace }

/-- Queues a call up. -/
def enqueue (t : Ticket) (w : World ε γ) : World ε γ := { w with agenda := w.agenda.enqueue t }

/-- Lets a call pause until a time. The alarm wakes a call that is asleep, which then queues up. -/
def restUntil (call : Nat) (time : Float) (w : World ε γ) : World ε γ :=
  { w with agenda := w.agenda.setAlarm time ⟨call, 1⟩ }

/-- Lets a call pause. A pause that is not positive takes no time: the call queues up at once, and
as often again as it says. -/
def rest (call : Nat) (delay : Float) (again : Nat) (w : World ε γ) : World ε γ :=
  if delay ≤ 0.0 then w.enqueue ⟨call, again⟩ else w.restUntil call (w.now + delay)

end World

end BlockStorage
