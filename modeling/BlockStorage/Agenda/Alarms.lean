/-!
# Alarms

Alarms are kept in a binary heap: no alarm goes off before the one above it. Of
several alarms for one time, the heap's shape says which comes first.

* `Alarms.set`: sets an alarm.
* `Alarms.ring`: takes out all alarms that have gone off by a time.
-/

namespace BlockStorage

/-- A place in the queue. -/
structure Ticket where
  /-- The number of the call that goes on. -/
  call : Nat
  /-- How often the ticket queues up again before. -/
  again : Nat := 0
  deriving DecidableEq, Repr

/-- A ticket that queues up at a time. -/
structure Alarm where
  time : Float
  ticket : Ticket

/-- A heap of alarms, the first one at its root; the two below the place `i` are at `2 * i + 1` and
`2 * i + 2`. -/
abbrev Alarms := Array Alarm

namespace Alarms

/-- Whether the alarm at the first place is for an earlier time than the one at the second. -/
def isEarlier (h : Alarms) (i j : Nat) : Bool :=
  match h[i]?, h[j]? with
  | some a, some b => a.time < b.time
  | _, _ => false

/-- Lets an alarm rise above those that go off later. -/
def rise (h : Alarms) (i : Nat) : Alarms :=
  if i = 0 then h
  else
    let above := (i - 1) / 2
    if isEarlier h i above then rise (h.swapIfInBounds i above) above else h
termination_by i
decreasing_by omega

/-- Lets an alarm sink to the bottom, where at each place the earlier of the two below comes up, and
rise again from there. -/
def sink (h : Alarms) (i : Nat) : Alarms :=
  let left := 2 * i + 1
  if left < h.size then
    let below := if left + 1 < h.size && !isEarlier h left (left + 1) then left + 1 else left
    sink (h.swapIfInBounds i below) below
  else rise h i
termination_by h.size - i
decreasing_by
  simp only [Array.size_swapIfInBounds]
  split <;> omega

/-- Sets an alarm. -/
def set (h : Alarms) (alarm : Alarm) : Alarms := rise (h.push alarm) h.size

/-- The alarms without the first one. -/
def rest (h : Alarms) : Alarms :=
  match h.back? with
  | some last => if 1 < h.size then sink (h.pop.setIfInBounds 0 last) 0 else #[]
  | none => #[]

/-- Clocks are read to the nanosecond. -/
def resolution : Float := 1e-9

/-- Whether an alarm has gone off. -/
def hasRung (now : Float) (alarm : Alarm) : Bool :=
  !decide (now < alarm.time) || !decide (now + resolution ≤ alarm.time)

/-- The tickets of the alarms that have gone off, at most so many, and the other alarms. -/
def ringUpTo : Nat → Float → Alarms → List Ticket × Alarms
  | 0, _, h => ([], h)
  | most + 1, now, h =>
    match h[0]? with
    | none => ([], h)
    | some alarm =>
      if hasRung now alarm then
        let (tickets, others) := ringUpTo most now h.rest
        (alarm.ticket :: tickets, others)
      else ([], h)

/-- The tickets of all alarms that have gone off, and the other alarms. -/
def ring (h : Alarms) (now : Float) : List Ticket × Alarms := ringUpTo h.size now h

end Alarms

end BlockStorage
