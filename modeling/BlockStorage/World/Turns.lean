import BlockStorage.World

/-!
# Taking turns

Whenever the caller pauses, strays go on as the agenda says, until it is the
caller's turn again. A caller can also start several calls side by side and pause
until all of them have answered, or until one has failed; the others are then
strays.

* `World.pause`: a pause of the caller.
* `Leg.finish`: runs a call of the caller to its end.
* `World.sideBySide`: runs several calls at once.
-/

namespace BlockStorage

namespace World

variable {ε γ α : Type}

/-- The number of the caller; no call has it. -/
def caller : Nat := 0

/-- Lets a call go on to its next pause or to its end. -/
def resume (w : World ε γ) : Pending ε γ α → (Pending ε γ α ⊕ α) × World ε γ
  | ⟨number, pauses, next⟩ =>
    match pauses, next w.now w.remote with
    | _, .done s a => (.inr a, w.haltedBy s)
    | pauses + 1, .paused s delay next =>
      (.inl ⟨number, pauses, next⟩, (w.haltedBy s).rest number delay 0)

/-- The world at a turn. -/
def atTurn (t : Slot) (w : World ε γ) : World ε γ := { w with now := t.now, agenda := t.agenda }

/-- Lets the stray with a number go on, if there is one. -/
def resumeStray? (number : Nat) (w : World ε γ) : Option (World ε γ) :=
  (Pending.pick? number w.strays).map fun (p, others) =>
    match w.resume p with
    | (.inl p, w) => { w with strays := p :: others }
    | (.inr _, w) => { w with strays := others }

/-- Lets strays go on until it is the caller's turn, or for so many turns. -/
def untilTurn : Nat → World ε γ → World ε γ
  | 0, w => w
  | turns + 1, w =>
    match w.agenda.next? w.now with
    | none => w
    | some t =>
      let w := w.atTurn t
      match w.resumeStray? t.call with
      | some w => untilTurn turns w
      | none => w

/-- Lets strays go on until it is the caller's turn: they take only so many turns before they
end. -/
def awaitTurn (w : World ε γ) : World ε γ := untilTurn (Pending.turns w.strays + 1) w

/-- A pause of the caller; one that takes no time queues up again as often as it says. -/
def pause (delay : Float) (again : Nat) (w : World ε γ) : World ε γ :=
  (w.rest caller delay again).awaitTurn

/-- A pause of the caller until a time. -/
def pauseUntil (time : Float) (w : World ε γ) : World ε γ := (w.restUntil caller time).awaitTurn

end World

/-- Runs a call of the caller to its end. -/
def Leg.finish {ε γ α : Type} {pauses : Nat} : Leg ε γ α pauses → StateM (World ε γ) α
  | done s a => fun w => (a, w.haltedBy s)
  | paused s delay next => fun w =>
    let w := (w.haltedBy s).pause delay 0
    finish (next w.now w.remote) w

/-! ## Calls side by side -/

/-- Calls side by side: those under way, the answers so far, and the first failure. -/
structure Gathering (ε γ α : Type) where
  pending : List (Pending ε γ (Except Fault α))
  answers : List (Nat × α) := []
  failure : Option Fault := none

namespace Gathering

variable {ε γ α : Type}

/-- Takes the answer of a call. The caller hears of the first failure, or else of the last
answer. -/
def settle (g : Gathering ε γ α) (number : Nat) (answer : Except Fault α) (w : World ε γ) :
    Gathering ε γ α × World ε γ :=
  let heard := w.enqueue ⟨World.caller, 1⟩
  match g.failure, answer with
  | some _, _ => (g, w)
  | none, .error f => ({ g with failure := some f }, heard)
  | none, .ok a =>
    ({ g with answers := (number, a) :: g.answers }, if g.pending.isEmpty then heard else w)

/-- Lets the calls and the strays go on until it is the caller's turn, or for so many turns. -/
def untilTurn : Nat → Gathering ε γ α → World ε γ → Gathering ε γ α × World ε γ
  | 0, g, w => (g, w)
  | turns + 1, g, w =>
    match w.agenda.next? w.now with
    | none => (g, w)
    | some t =>
      let w := w.atTurn t
      match Pending.pick? t.call g.pending with
      | some (p, pending) =>
        match w.resume p with
        | (.inl p, w) => untilTurn turns { g with pending := p :: pending } w
        | (.inr answer, w) =>
          let (g, w) := settle { g with pending } p.number answer w
          untilTurn turns g w
      | none => match w.resumeStray? t.call with
        | some w => untilTurn turns g w
        | none => (g, w)

end Gathering

namespace World

variable {ε γ α : Type} {pauses : Nat}

/-- Starts calls one after the other and lets them go on until all have answered or one has failed.
Then those that are still under way are strays. -/
def sideBySide (starts : List (Float → γ → Leg ε γ (Except Fault α) pauses)) :
    StateM (World ε γ) (Except Fault (List α)) := fun w =>
  if starts.isEmpty then (.ok [], w) else
  let calls := starts.mapIdx fun i start => (⟨w.issued + i + 1, pauses, start⟩ : Pending ε γ _)
  let w := calls.foldl (fun w p => w.enqueue ⟨p.number, 0⟩)
    { w with issued := w.issued + starts.length }
  let turns := Pending.turns calls + Pending.turns w.strays + 1
  let (g, w) := Gathering.untilTurn turns ⟨calls, [], none⟩ w
  let w := { w with strays := w.strays ++ g.pending.map Pending.unheard }
  match g.failure with
  | some f => (.error f, w)
  | none => (.ok (calls.filterMap fun p => g.answers.lookup p.number), w)

end World

end BlockStorage
