import BlockStorage.Fault

/-!
# Timestamps by the clock

A clock that counts seconds from a fixed start tells the time as a UTC timestamp, as
long as that is in the years 1 to 9999.

* `Timestamp.after`: the timestamp a number of seconds after a start.
-/

namespace BlockStorage.Timestamp

/-- Spans have fewer days than this, in either direction. -/
def mostDays : Nat := 1000000000

/-- Whether a UTC second is in the years 1 to 9999. -/
def isInYears (seconds : Int) : Bool :=
  let year := (civil (seconds.fdiv 86400)).1
  1 ≤ year && year ≤ 9999

/-- The timestamp `seconds` after `start`, which is in microseconds from 1970 on. -/
def after (start : Int) (seconds : Float) : Except Fault Timestamp :=
  match microsOf? seconds with
  | none => .error (.misuse (.time (if seconds.isNaN then .undefined else .overflow)))
  | some span =>
    let days := span.fdiv 86400000000
    if mostDays ≤ days.natAbs then .error (.misuse (.time (.spanTooLong days)))
    else if isInYears ((start + span).fdiv 1000000) then .ok (ofMicros (start + span) (.given 0))
    else .error (.misuse (.time .notATimestamp))

end BlockStorage.Timestamp
