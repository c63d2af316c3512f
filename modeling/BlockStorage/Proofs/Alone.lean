import BlockStorage.Proofs.Double.Difference
import BlockStorage.World.Turns

/-!
# Worlds with nobody else in them

Where no stray waits for its turn, a pause changes nothing but the clock, and it
makes no difference how often the caller queues up after it.

* `World.Alone`: nobody is on the agenda.
* `World.rested`: the time when a pause is over.
* `World.Alone.pause`, `World.Alone.pauseUntil`: what a pause does there.
* `Visit`: what a call does there, told by the time and the remote side that it
  finds; `World.leave`: the world after it.
* `World.Alone.finish`: every call is such a visit.
-/

namespace BlockStorage

namespace Agenda

variable {call again steps : Nat} {now time : Float}

/-- The only ticket of a round comes up, after it has queued up as often as it says. -/
theorem find?_single (h : 2 * again + 1 ≤ steps) :
    find? steps now { round := [⟨call, again⟩] } = some ⟨call, now, {}⟩ := by
  induction again generalizing steps with
  | zero =>
    obtain ⟨steps, rfl⟩ := Nat.exists_eq_add_of_le' h
    rfl
  | succ again ih =>
    obtain ⟨steps, rfl⟩ := Nat.exists_eq_add_of_le' (show 2 ≤ steps by omega)
    exact ih (by omega)

theorem next?_enqueued (call again : Nat) (now : Float) :
    next? { following := [⟨call, again⟩] } now = some ⟨call, now, {}⟩ := by
  have hsize : size { following := [⟨call, again⟩] } = 0 + again + 1 := rfl
  rw [next?, hsize]
  show find? (2 * (0 + again + 1)) now { round := [⟨call, again⟩] } = _
  exact find?_single (by omega)

/-- An alarm has gone off by the time to which the clock runs on for it. -/
theorem hasRung_reached (alarm : Alarm) (now : Float) :
    Alarms.hasRung (if now < alarm.time then alarm.time else now) alarm = true := by
  have hreached : ¬ (if now < alarm.time then alarm.time else now) < alarm.time := by
    split
    · exact fun h => absurd (Double.lt_iff.mp h).2 (Int.lt_irrefl _)
    · assumption
  rw [Alarms.hasRung, decide_eq_false hreached]
  rfl

theorem set_empty (alarm : Alarm) : Alarms.set #[] alarm = #[alarm] := by
  rw [Alarms.set, Alarms.rise]
  rfl

theorem next?_alarm (call again : Nat) (time now : Float) :
    next? (({} : Agenda).setAlarm time ⟨call, again⟩) now =
      some ⟨call, if now < time then time else now, {}⟩ := by
  rw [setAlarm, set_empty]
  have hsize : size { alarms := #[⟨time, ⟨call, again⟩⟩] } = 0 + again + 1 := rfl
  have hreach : roundTime { alarms := #[⟨time, ⟨call, again⟩⟩] } now =
      if now < time then time else now := rfl
  rw [next?, hsize]
  show find? (2 * (0 + again + 1)) (roundTime _ now) (beginRound _ (roundTime _ now)) = _
  rw [hreach]
  have hrung := hasRung_reached ⟨time, ⟨call, again⟩⟩ now
  have hbegin : beginRound { alarms := #[⟨time, ⟨call, again⟩⟩] }
      (if now < time then time else now) = { round := [⟨call, again⟩] } := by
    dsimp only at hrung
    simp [beginRound, Alarms.ring, Alarms.ringUpTo, hrung, Alarms.rest]
  rw [hbegin]
  exact find?_single (by omega)

end Agenda

namespace World

variable {ε γ : Type}

/-- The time when a pause is over that begins now. -/
def rested (now delay : Float) : Float :=
  if delay ≤ 0.0 then now else if now < now + delay then now + delay else now

/-- Nobody is on the agenda, and nobody waits for a turn. -/
structure Alone (s : World ε γ) : Prop where
  agenda : s.agenda = {}
  strays : s.strays = []

namespace Alone

variable {s : World ε γ}

theorem awaitTurn {call : Nat} {time : Float} (hstrays : s.strays = [])
    (h : s.agenda.next? s.now = some ⟨call, time, {}⟩) :
    s.awaitTurn = { s with now := time, agenda := {} } := by
  -- The turn is nobody's but the caller's own.
  have hnobody : (s.atTurn ⟨call, time, {}⟩).resumeStray? call = none := by
    rw [resumeStray?]
    show (Pending.pick? call s.strays).map _ = none
    rw [hstrays]
    rfl
  rw [World.awaitTurn, untilTurn, h]
  dsimp only
  rw [hnobody]
  rfl

theorem pause (h : s.Alone) (delay : Float) (again : Nat) :
    s.pause delay again = s.runTo (rested s.now delay) := by
  obtain ⟨now, cancel, remote, journal, agenda, strays, issued⟩ := s
  obtain ⟨rfl, rfl⟩ : agenda = {} ∧ strays = [] := ⟨h.agenda, h.strays⟩
  rw [World.pause, rest, rested]
  split
  · exact awaitTurn rfl (Agenda.next?_enqueued ..)
  · exact awaitTurn rfl (Agenda.next?_alarm ..)

theorem pauseUntil (h : s.Alone) {time : Float} (hlater : s.now < time) :
    s.pauseUntil time = s.runTo time := by
  obtain ⟨now, cancel, remote, journal, agenda, strays, issued⟩ := s
  obtain ⟨rfl, rfl⟩ : agenda = {} ∧ strays = [] := ⟨h.agenda, h.strays⟩
  have hnext := Agenda.next?_alarm caller 1 time now
  rw [if_pos hlater] at hnext
  exact awaitTurn rfl hnext

theorem note (h : s.Alone) (e : ε) : (s.note e).Alone := ⟨h.agenda, h.strays⟩

theorem runTo (h : s.Alone) (time : Float) : (s.runTo time).Alone := ⟨h.agenda, h.strays⟩

end Alone

/-- What comes before a pause is over has come when it began, or comes in time to cut it short. -/
theorem lt_rested {time now delay : Float} (h : time < rested now delay) :
    time ≤ now ∨ time < later now delay := by
  rw [rested] at h
  split at h
  · exact .inl (Double.le_of_lt h)
  · next hpositive =>
    split at h
    · have hnumber : ¬ delay.isNaN := fun hnan =>
        (Double.lt_iff.mp h).1.2 (Double.isNaN_add (.inr hnan))
      rw [later, if_pos (Double.lt_of_not_le (by decide) hnumber hpositive)]
      exact .inr h
    · exact .inl (Double.le_of_lt h)

/-- What comes in time to cut a pause short, and has not come yet, is still to come. -/
theorem lt_of_lt_later {time now delay : Float} (h : time < later now delay)
    (hopen : ¬ time ≤ now) : now < time := by
  have hnow : ¬ now.isNaN := fun hnan => by
    rw [later] at h
    split at h
    · exact (Double.lt_iff.mp h).1.2 (Double.isNaN_add (.inl hnan))
    · exact (Double.lt_iff.mp h).1.2 hnan
  exact Double.lt_of_not_le hnow (Double.lt_iff.mp h).1.1 hopen

end World

/-! ## Calls -/

/-- What a call does that nobody interferes with. -/
structure Visit (ε γ α : Type) where
  answer : α
  /-- The time when it is over. -/
  ends : Float
  remote : γ
  trace : List ε := []
  /-- When the caller's cancel event was set meanwhile. -/
  sets : List Float := []

variable {ε γ α : Type}

/-- The world after a visit. -/
def World.leave (v : Visit ε γ α) (s : World ε γ) : World ε γ :=
  { s with
    now := v.ends
    cancel := v.sets.foldl Cancel.setAt s.cancel
    remote := v.remote
    journal := s.journal ++ v.trace }

theorem World.Alone.leave {s : World ε γ} (h : s.Alone) (v : Visit ε γ α) : (s.leave v).Alone :=
  ⟨h.agenda, h.strays⟩

/-- The visit that a call is, begun at a time. -/
def Leg.visit {pauses : Nat} : Leg ε γ α pauses → Float → Visit ε γ α
  | done s a, now => ⟨a, now, s.remote, s.trace, if s.cancels then [now] else []⟩
  | paused s delay next, now =>
    let rest := visit (next (World.rested now delay) s.remote) (World.rested now delay)
    { rest with
      trace := s.trace ++ rest.trace
      sets := (if s.cancels then [now] else []) ++ rest.sets }

/-- One visit after another, with the clock running on between them. -/
theorem World.leave_leave {β : Type} (s : World ε γ) (v : Visit ε γ β) (time : Float)
    (rest : Visit ε γ α) :
    ((s.leave v).runTo time).leave rest =
      s.leave { rest with trace := v.trace ++ rest.trace, sets := v.sets ++ rest.sets } := by
  simp [leave, runTo, List.foldl_append]

theorem World.haltedBy_eq (s : World ε γ) (h : Halt ε γ) :
    s.haltedBy h = s.leave ⟨(), s.now, h.remote, h.trace, if h.cancels then [s.now] else []⟩ := by
  rw [haltedBy, leave]
  cases h.cancels <;> rfl

/-- **A call is a visit**, in a world with nobody else. -/
theorem World.Alone.finish {pauses : Nat} {s : World ε γ} (h : s.Alone) (leg : Leg ε γ α pauses) :
    leg.finish s = ((leg.visit s.now).answer, s.leave (leg.visit s.now)) := by
  induction leg generalizing s with
  | done halt a =>
    rw [Leg.finish]
    exact congrArg (a, ·) (s.haltedBy_eq halt)
  | paused halt delay next ih =>
    have halted : (s.haltedBy halt).Alone := ⟨h.agenda, h.strays⟩
    rw [Leg.finish]
    dsimp only
    rw [halted.pause, ih _ _ (halted.runTo _), haltedBy_eq]
    exact congrArg (Prod.mk _) (s.leave_leave ..)

end BlockStorage
