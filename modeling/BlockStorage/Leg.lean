import BlockStorage.Fault

/-!
# Legs of a call

A call to the remote side may have to pause before it can go on. A `Leg` is a
call up to its next pause: what it has done so far, and either its answer or how
long it pauses and how it goes on from there. Its type says how often it pauses at
most.

* `Halt`: what a leg leaves behind.
* `Leg.map`, `Leg.relabel`, `Leg.after`, `Leg.reporting`: the same call with
  another answer or other reports.
-/

namespace BlockStorage

/-- What a leg leaves behind: the remote side, what it reports, and whether the caller's cancel
event was set meanwhile. -/
structure Halt (ε γ : Type) where
  remote : γ
  trace : List ε := []
  cancels : Bool := false

/-- Renames what is reported. -/
def Halt.relabel {ε ε' γ : Type} (f : ε → ε') (s : Halt ε γ) : Halt ε' γ :=
  { s with trace := s.trace.map f }

/-- A call up to its next pause. A call that pauses goes on at the time and from the remote side
that it then finds. -/
inductive Leg (ε γ α : Type) : Nat → Type
  | done {pauses : Nat} (halt : Halt ε γ) (answer : α) : Leg ε γ α pauses
  | paused {pauses : Nat} (halt : Halt ε γ) (delay : Float)
      (next : Float → γ → Leg ε γ α pauses) : Leg ε γ α (pauses + 1)

namespace Leg

variable {ε ε' γ α β : Type} {pauses : Nat}

/-- Changes the answer. -/
def map {pauses : Nat} (f : α → β) : Leg ε γ α pauses → Leg ε γ β pauses
  | done s a => done s (f a)
  | paused s delay next => paused s delay fun now remote => map f (next now remote)

/-- Renames what is reported. -/
def relabel {pauses : Nat} (f : ε → ε') : Leg ε γ α pauses → Leg ε' γ α pauses
  | done s a => done (s.relabel f) a
  | paused s delay next => paused (s.relabel f) delay fun now remote => relabel f (next now remote)

/-- Reports something before all else. -/
def after (e : ε) : Leg ε γ α pauses → Leg ε γ α pauses
  | done s a => done { s with trace := e :: s.trace } a
  | paused s delay next => paused { s with trace := e :: s.trace } delay next

/-- Reports the answer after all else. -/
def reporting {pauses : Nat} (f : α → ε) : Leg ε γ α pauses → Leg ε γ α pauses
  | done s a => done { s with trace := s.trace ++ [f a] } a
  | paused s delay next => paused s delay fun now remote => reporting f (next now remote)

end Leg

/-- A call that waits for its turn, under the number that it has on the agenda. -/
structure Pending (ε γ α : Type) where
  number : Nat
  pauses : Nat
  next : Float → γ → Leg ε γ α pauses

namespace Pending

variable {ε γ α : Type}

/-- The same call for nobody. -/
def unheard (p : Pending ε γ α) : Pending ε γ Unit :=
  { p with next := fun now remote => (p.next now remote).map fun _ => () }

/-- The call with a number, and the others. -/
def pick? (number : Nat) : List (Pending ε γ α) → Option (Pending ε γ α × List (Pending ε γ α))
  | [] => none
  | p :: ps =>
    if p.number = number then some (p, ps)
    else (pick? number ps).map fun (q, qs) => (q, p :: qs)

/-- How many turns the calls take at most. -/
def turns (ps : List (Pending ε γ α)) : Nat := ps.foldl (fun n p => n + p.pauses + 1) 0

end Pending

end BlockStorage
