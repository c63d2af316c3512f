import BlockStorage.Agenda.Alarms

/-!
# Agendas

Calls that are under way at once take turns: one of them goes on up to its next
pause, then another one. An `Agenda` says whose turn it is next. It works in
rounds. A round goes through a queue of tickets; what queues up meanwhile is for
the following round. Alarms that have gone off queue up between two rounds, behind
all others. Only when nobody is in the queue does the clock run on, to the next
alarm.

A ticket may have to queue up again before its call goes on, as often as it says:
news takes its time to get to the one who waits for it.

* `Agenda.enqueue`, `Agenda.setAlarm`: a ticket for the queue, at once or later.
* `Agenda.next?`: the next turn.
-/

namespace BlockStorage

structure Agenda where
  /-- What is left of the round. -/
  round : List Ticket := []
  following : List Ticket := []
  alarms : Alarms := #[]

/-- A call whose turn it is, and the time. -/
structure Slot where
  call : Nat
  now : Float
  agenda : Agenda

namespace Agenda

/-- Queues a ticket up. -/
def enqueue (a : Agenda) (t : Ticket) : Agenda := { a with following := a.following ++ [t] }

/-- Sets an alarm. -/
def setAlarm (a : Agenda) (time : Float) (t : Ticket) : Agenda :=
  { a with alarms := a.alarms.set ⟨time, t⟩ }

/-- The time at which the next round begins: the clock runs on only if nobody is in the queue. -/
def roundTime (a : Agenda) (now : Float) : Float :=
  match a.following, a.alarms[0]? with
  | [], some alarm => if now < alarm.time then alarm.time else now
  | _, _ => now

/-- The agenda when a round begins at a time. -/
def beginRound (a : Agenda) (now : Float) : Agenda :=
  let (rung, alarms) := a.alarms.ring now
  { round := a.following ++ rung, alarms }

/-- How often the tickets queue up altogether. -/
def size (a : Agenda) : Nat :=
  (a.round ++ a.following ++ a.alarms.toList.map Alarm.ticket).foldl (fun n t => n + t.again + 1) 0

/-- The next turn, found in so many steps; in each a ticket is taken or a round begins. -/
def find? : Nat → Float → Agenda → Option Slot
  | 0, _, _ => none
  | steps + 1, now, a =>
    match a.round with
    | ⟨call, 0⟩ :: round => some ⟨call, now, { a with round }⟩
    | ⟨call, again + 1⟩ :: round => find? steps now (enqueue { a with round } ⟨call, again⟩)
    | [] => find? steps (a.roundTime now) (a.beginRound (a.roundTime now))

/-- The next turn; none if there are no tickets. A ticket is taken as often as it queues up, and
there is at most one round for each. -/
def next? (a : Agenda) (now : Float) : Option Slot := find? (2 * a.size + 1) now a

end Agenda

end BlockStorage
