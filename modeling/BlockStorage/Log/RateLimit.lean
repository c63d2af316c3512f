import BlockStorage.Log.Entry

/-!
# Rate limits

A `RateLimit` drops repetitions of one event within a window of time. It keeps,
for the keys seen last, when a record of the key last passed and how many have
been dropped since; the next record that passes says so. Errors always pass and
leave no trace.

* `RateLimit.key`: what two records have to share to count as repetitions.
* `RateLimit.step`: what becomes of a record with a key.
-/

namespace BlockStorage

/-- What is kept of a key: when a record last passed, and how many were dropped since. -/
structure Sighting where
  key : String
  passedAt : Float
  dropped : Nat := 0

structure RateLimit where
  window : Float := 5.0
  /-- How many keys are kept. -/
  capacity : Nat := 1000
  /-- The keys seen last, the latest at the end. -/
  seen : List Sighting := []

/-- What becomes of a record. -/
inductive Passage
  /-- It passes, the first one after so many were dropped. -/
  | passed (dropped : Nat)
  | dropped
  deriving DecidableEq, Repr

namespace RateLimit

/-- The level from which on records always pass. -/
def gravest : Int := 40

/-- The fields that say which resource a record is about. -/
def resourceFields : List String := ["volume_id", "snapshot_id", "resource_id", "circuit"]

/-- What is common to repetitions: the event, its condition and its resource. A record without an
event has none. -/
def key? (extra : Fields) : Option String :=
  match extra.get? "event" with
  | none | some .null => none
  | some event =>
    let parts := ("condition" :: resourceFields).map fun f =>
      ((extra.get? f).map Datum.plain).getD ""
    some (":".intercalate (event.plain :: parts))

/-- The key of an entry: without an event, its place and its message. -/
def key (e : LogEntry) : Except Fault String :=
  match key? e.extra with
  | some k => .ok k
  | none => e.message.map fun m =>
    ":".intercalate [(e.property "name").plain, (e.property "lineno").plain, m]

/-- Keeps the keys seen last. -/
def trim (capacity : Nat) (seen : List Sighting) : List Sighting :=
  seen.drop (seen.length - capacity)

/-- What becomes of a record with this level and key. -/
def step (r : RateLimit) (now : Float) (level : Int) (key : String) : Passage × RateLimit :=
  if gravest ≤ level then (.passed 0, r)
  else
    let others := r.seen.filter (·.key ≠ key)
    let pass (dropped : Nat) : Passage × RateLimit :=
      (.passed dropped, { r with seen := trim r.capacity (others ++ [⟨key, now, 0⟩]) })
    match r.seen.find? (·.key = key) with
    | none => pass 0
    | some s =>
      if now - s.passedAt < r.window then
        (.dropped, { r with seen := others ++ [{ s with dropped := s.dropped + 1 }] })
      else pass s.dropped

/-- The level of an entry as far as limits ask for it: a whole number. -/
def levelOf (e : LogEntry) : Except Fault Int :=
  match e.property "levelno" with
  | .int n => .ok n
  | .bool b => .ok (if b then 1 else 0)
  | .real x => .ok (if Float.ofInt gravest ≤ x then gravest else 0)
  | d => .error (.misuse (.notOrdered ">=" d.kindName (Datum.int gravest).kindName))

/-- What becomes of an entry: nothing, or the entry with the number of those dropped before it. -/
def filter (r : RateLimit) (now : Float) (e : LogEntry) :
    Except Fault (Option LogEntry) × RateLimit :=
  match levelOf e with
  | .error f => (.error f, r)
  | .ok level =>
    if gravest ≤ level then (.ok (some e), r)
    else match key e with
      | .error f => (.error f, r)
      | .ok k => match r.step now level k with
        | (.dropped, r) => (.ok none, r)
        | (.passed 0, r) => (.ok (some e), r)
        | (.passed n, r) => (.ok (some { e with extra := e.extra.put "suppressed" (.int n) }), r)

end RateLimit

end BlockStorage
