import BlockStorage.Datum.Access

/-!
# The clock of log entries

An entry carries its time as a number of seconds after 1970, which anyone who
makes the entry can set, also to something that is no time.

* `LogClock.timestamp`: the UTC timestamp, to the nearest microsecond.
* `LogClock.text`: date and time of day in whole seconds, as plain lines show them.
-/

namespace BlockStorage.LogClock

/-- A refusal of a number as a time. -/
def refuse {α : Type} (why : TimeIssue) : Except Fault α := .error (.misuse (.time why))

/-- Clocks count seconds in a signed word of 64 bits. -/
def isCounted (seconds : Int) : Bool := -(Nat.pow 2 63) ≤ seconds && seconds < Nat.pow 2 63

/-- A number of seconds in microseconds, rounded to the nearest one. -/
def micros (d : Datum) : Except Fault Int := do
  let n ← match d with
    | .int n => pure (n * 1000000)
    | .bool b => pure (if b then 1000000 else 0)
    | .real x =>
      if x.isNaN then refuse .undefined
      else match Timestamp.microsOf? x with
        | some n => pure n
        | none => refuse .overflow
    | d => refuse (.notWhole d.kindName)
  if isCounted (n.fdiv 1000000) then return n else refuse .overflow

/-- The year in which a second lies. -/
def yearOf (seconds : Int) : Int := (Timestamp.civil (seconds.fdiv 86400)).1

/-- Calendars count the years from 1900 on in a signed word of 32 bits. -/
def isInCalendar (year : Int) : Bool := -(Nat.pow 2 31) ≤ year - 1900 && year - 1900 < Nat.pow 2 31

/-- The UTC timestamp of a number of seconds. -/
def timestamp (d : Datum) : Except Fault Timestamp := do
  let n ← micros d
  let year := yearOf (n.fdiv 1000000)
  if !isInCalendar year then refuse .endOfCalendar
  else if 1 ≤ year && year ≤ 9999 then return .ofMicros n (.given 0)
  else refuse (.yearOutOfRange year)

/-- A number of seconds without what it has after the point, rounded down. -/
def wholeSeconds (d : Datum) : Except Fault Int :=
  match d with
  | .real x => if x.isNaN then refuse .undefined else match Decimal.Real.truncate? x.floor with
    | some n => .ok n
    | none => refuse .overflow
  | d => (micros d).map (·.fdiv 1000000)

/-- `YYYY-MM-DD HH:MM:SS`; the year has no zeros in front. -/
def text (d : Datum) : Except Fault String := do
  let seconds ← wholeSeconds d
  let (year, month, day) := Timestamp.civil (seconds.fdiv 86400)
  if isCounted seconds && isInCalendar year && year < Nat.pow 2 31 then
    let t := Timestamp.ofMicros (seconds * 1000000) .unknown
    return s!"{year}-{Timestamp.pad 2 month}-{Timestamp.pad 2 day} {t.clockText}"
  else refuse .endOfCalendar

end BlockStorage.LogClock
