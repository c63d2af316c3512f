import BlockStorage.Decimal.Layout

/-!
# Timestamps

A calendar date with a time of day to the microsecond, and the offset from UTC
where one is known.

* `Timestamp.read?`, `Timestamp.iso`: the ISO 8601 text.
* `Timestamp.ofWhole?`, `Timestamp.ofReal?`: the UTC timestamp that a number
  stands for.
* `Timestamp.shown`: the text inside a message.
-/

namespace BlockStorage

/-- What a timestamp says of its offset from UTC, in microseconds to the east. -/
inductive Zone
  /-- Nothing: a local time. -/
  | unknown
  /-- Found by the check that read the timestamp. -/
  | checked (micros : Int)
  /-- Handed over by whoever made the timestamp. -/
  | given (micros : Int)
  deriving DecidableEq, Repr

structure Timestamp where
  year : Nat
  month : Nat
  day : Nat
  hour : Nat
  minute : Nat
  second : Nat
  micro : Nat
  zone : Zone
  deriving DecidableEq, Repr

namespace Timestamp

/-! ## The calendar -/

/-- Every fourth year, without the centuries not divisible by four. -/
def isLeap (year : Nat) : Bool :=
  year % 4 = 0 && (year % 100 ≠ 0 || year % 400 = 0)

def daysInMonth (year month : Nat) : Nat :=
  if month = 2 then (if isLeap year then 29 else 28)
  else if month = 4 || month = 6 || month = 9 || month = 11 then 30
  else 31

/-- Year, month and day of the day that is `days` after 1970-01-01. The year is counted from March
in eras of 400 years, which all have the same number of days. -/
def civil (days : Int) : Int × Nat × Nat :=
  let z := days + 719468
  let era := z.fdiv 146097
  let dayOfEra := (z.fmod 146097).toNat
  let yearOfEra := (dayOfEra - dayOfEra / 1460 + dayOfEra / 36524 - dayOfEra / 146096) / 365
  let dayOfYear := dayOfEra - (365 * yearOfEra + yearOfEra / 4 - yearOfEra / 100)
  let fromMarch := (5 * dayOfYear + 2) / 153
  let day := dayOfYear - (153 * fromMarch + 2) / 5 + 1
  let month := if fromMarch < 10 then fromMarch + 3 else fromMarch - 9
  let year := yearOfEra + era * 400 + (if month ≤ 2 then 1 else 0)
  (year, month, day)

/-- The days from 1970-01-01 to a day, counted from March in the same eras. -/
def daysOf (year month day : Nat) : Int :=
  let y : Int := (year : Int) - (if month ≤ 2 then 1 else 0)
  let era := y.fdiv 400
  let yearOfEra := (y.fmod 400).toNat
  let fromMarch := if 2 < month then month - 3 else month + 9
  let dayOfYear := (153 * fromMarch + 2) / 5 + day - 1
  let dayOfEra := yearOfEra * 365 + yearOfEra / 4 - yearOfEra / 100 + dayOfYear
  era * 146097 + dayOfEra - 719468

/-- The timestamp `micros` microseconds after the year 1970 began in UTC. -/
def ofMicros (micros : Int) (zone : Zone) : Timestamp :=
  let seconds := micros.fdiv 1000000
  let (year, month, day) := civil (seconds.fdiv 86400)
  let rest := (seconds.fmod 86400).toNat
  { year := year.toNat, month, day
    hour := rest / 3600
    minute := rest / 60 % 60
    second := rest % 60
    micro := (micros.fmod 1000000).toNat
    zone }

/-- The first second of the year 0, from 1970 on. -/
def firstSecond : Int := -62167219200

/-- The last second of the year 9999, from 1970 on. -/
def lastSecond : Int := 253402300799

/-- Whether a number of microseconds after 1970 is in the years of four digits. -/
def isInRange (micros : Int) : Bool :=
  firstSecond ≤ micros.fdiv 1000000 && micros.fdiv 1000000 ≤ lastSecond

/-! ## Numbers that stand for timestamps -/

/-- Up to here numbers count seconds; larger ones count milliseconds. -/
def watershed : Nat := 20000000000

/-- The timestamp of a number of microseconds that was read by a check. -/
def checked? (micros : Int) : Option Timestamp :=
  if isInRange micros then some (ofMicros micros (.checked 0)) else none

/-- The UTC timestamp that a whole number stands for. -/
def ofWhole? (n : Int) : Option Timestamp :=
  checked? (n * if watershed < n.natAbs then 1000 else 1000000)

/-- The UTC timestamp that a double stands for. What it has after the point is rounded to
microseconds, a half upward. -/
def ofReal? (x : Float) : Option Timestamp :=
  let unit : Nat := if Float.ofNat watershed < x.abs then 1000 else 1000000
  match Decimal.Real.truncate? x.floor with
  | none => none
  | some below =>
    let rest := ((x - x.floor) * Float.ofNat unit).round
    checked? (below * unit + (Decimal.Real.truncate? rest).getD 0)

/-- A number of seconds in microseconds. What it has after the point is rounded, a half to the even
one. -/
def microsOf? (x : Float) : Option Int := do
  let whole ← Decimal.Real.truncate? x
  let rest ← Decimal.nearest? ((x - Float.ofInt whole) * 1000000.0)
  return whole * 1000000 + rest

/-! ## Writing -/

/-- At least `width` digits. -/
def pad (width n : Nat) : String := Decimal.padLeft width (toString n)

/-- `±HH:MM`, with seconds and microseconds where there are any. -/
def offsetText (micros : Int) : String :=
  let seconds := micros.natAbs / 1000000
  let rest := micros.natAbs % 1000000
  (if micros < 0 then "-" else "+") ++ pad 2 (seconds / 3600) ++ ":" ++ pad 2 (seconds / 60 % 60)
    ++ (if seconds % 60 = 0 && rest = 0 then "" else ":" ++ pad 2 (seconds % 60))
    ++ (if rest = 0 then "" else "." ++ pad 6 rest)

/-- `YYYY-MM-DD`. -/
def dateText (t : Timestamp) : String := pad 4 t.year ++ "-" ++ pad 2 t.month ++ "-" ++ pad 2 t.day

/-- `HH:MM:SS`. -/
def clockText (t : Timestamp) : String :=
  pad 2 t.hour ++ ":" ++ pad 2 t.minute ++ ":" ++ pad 2 t.second

/-- The ISO 8601 text; a fraction is written only if there is one. -/
def iso (t : Timestamp) : String :=
  t.dateText ++ "T" ++ t.clockText ++ (if t.micro = 0 then "" else "." ++ pad 6 t.micro)
    ++ (match t.zone with
      | .checked micros | .given micros => offsetText micros
      | .unknown => "")

/-- A span of time inside a message: days, and what is left of a day, as far as they are not
zero. -/
def spanText (micros : Int) : String :=
  let seconds := micros.fdiv 1000000
  let parts : List (String × Int) := [("days", seconds.fdiv 86400),
    ("seconds", seconds.fmod 86400), ("microseconds", micros.fmod 1000000)]
  let written := (parts.filter (·.2 ≠ 0)).map fun p => s!"{p.1}={p.2}"
  "datetime.timedelta(" ++ ", ".intercalate written ++ ")"

/-- The zone inside a message: an offset that was read as a number of seconds, one that was given as
a span. -/
def zoneText? : Zone → Option String
  | .unknown => none
  | .checked micros => some s!"TzInfo({micros.fdiv 1000000})"
  | .given micros =>
    some (if micros = 0 then "datetime.timezone.utc"
      else s!"datetime.timezone({spanText micros})")

/-- The text inside a message: zero seconds and microseconds at the end are left out. -/
def shown (t : Timestamp) : String :=
  let tail :=
    if t.micro ≠ 0 then [t.second, t.micro] else if t.second ≠ 0 then [t.second] else []
  let parts := ([t.year, t.month, t.day, t.hour, t.minute] ++ tail).map toString
  let zone := (zoneText? t.zone).map ("tzinfo=" ++ ·)
  "datetime.datetime(" ++ ", ".intercalate (parts ++ zone.toList) ++ ")"

/-! ## Reading -/

/-- Exactly `width` digits. -/
def digits? (width : Nat) (cs : List Char) : Option (Nat × List Char) :=
  let ds := cs.take width
  if ds.length = width && ds.all Char.isDigit then
    some (ds.foldl (fun n d => n * 10 + (d.toNat - '0'.toNat)) 0, cs.drop width)
  else none

/-- One given character. -/
def expect? (c : Char) : List Char → Option (List Char)
  | d :: cs => if d = c then some cs else none
  | [] => none

/-- The offset at the end: nothing, `Z`, `±HH:MM` or `±HHMM`. -/
def zone? : List Char → Option Zone
  | [] => some .unknown
  | [c] => if c = 'Z' || c = 'z' then some (.checked 0) else none
  | c :: cs => do
    let negative ←
      if c = '-' || c = '\u2212' then some true else if c = '+' then some false else none
    let (h, cs) ← digits? 2 cs
    let cs := match cs with
      | ':' :: cs => cs
      | cs => cs
    let (m, cs) ← digits? 2 cs
    if cs.isEmpty && h < 24 && m < 60 then
      let n : Int := (h * 60 + m) * 60000000
      some (.checked (if negative then -n else n))
    else none

/-- A fraction of a second; digits after the sixth are dropped. -/
def fraction? : List Char → Option (Nat × List Char)
  | c :: cs =>
    if c = '.' || c = ',' then
      let ds := cs.takeWhile Char.isDigit
      if ds.isEmpty then none
      else
        let six := (ds ++ List.replicate 6 '0').take 6
        some (six.foldl (fun n d => n * 10 + (d.toNat - '0'.toNat)) 0, cs.dropWhile Char.isDigit)
    else some (0, c :: cs)
  | [] => some (0, [])

/-- The time of day after the date; the seconds may be left out. -/
def time? (year month day : Nat) (cs : List Char) : Option Timestamp := do
  let (hour, cs) ← digits? 2 cs
  let cs ← expect? ':' cs
  let (minute, cs) ← digits? 2 cs
  let (second, micro, cs) ← match cs with
    | ':' :: cs => do
      let (second, cs) ← digits? 2 cs
      let (micro, cs) ← fraction? cs
      some (second, micro, cs)
    | cs => some (0, 0, cs)
  let zone ← zone? cs
  if hour < 24 && minute < 60 && second < 60 then
    some { year, month, day, hour, minute, second, micro, zone }
  else none

/-- Whether a month has this day. -/
def isDay (year month day : Nat) : Bool :=
  1 ≤ month && month ≤ 12 && 1 ≤ day && day ≤ daysInMonth year month

/-- Reads an ISO 8601 date, alone or with a time of day after `T`, a space or an underscore. The
year may be zero. -/
def read? (s : String) : Option Timestamp := do
  let (year, cs) ← digits? 4 s.toList
  let cs ← expect? '-' cs
  let (month, cs) ← digits? 2 cs
  let cs ← expect? '-' cs
  let (day, cs) ← digits? 2 cs
  if !isDay year month day then none else
  match cs with
  | [] => some ⟨year, month, day, 0, 0, 0, 0, .unknown⟩
  | c :: cs =>
    if c = 'T' || c = 't' || c = ' ' || c = '_' then time? year month day cs else none

end Timestamp

end BlockStorage
