import BlockStorage.Timestamp

/-!
# ISO 8601 timestamps in all their forms

Providers write timestamps in more ways than the plain one: with or without
separators, by week and weekday, with the time of day cut off after any part, and
with any character between date and time. `Timestamp.ofIso?` reads all of them.

A time of day is up to three pairs of digits and a fraction. What is left over
after them is refused, unless a zone follows it.
-/

namespace BlockStorage.Timestamp

/-! ## Dates -/

/-- The weekday of a day after 1970-01-01, Monday being zero. -/
def weekday (days : Int) : Int := (days + 3).fmod 7

/-- Whether a year has a week 53: if it begins on a Thursday, or on a Wednesday before a leap
day. -/
def hasLongestWeek (year : Nat) : Bool :=
  let first := weekday (daysOf year 1 1)
  first = 3 || (first = 2 && isLeap year)

/-- The day of a week of a year. The first week is the one with the first Thursday. -/
def dayOfWeek? (year week day : Nat) : Option (Nat × Nat × Nat) :=
  if 1 ≤ week && (week ≤ 52 || (week = 53 && hasLongestWeek year)) && 1 ≤ day && day ≤ 7 then
    let january := daysOf year 1 1
    let first := weekday january
    let monday := january - first + (if 3 < first then 7 else 0)
    let (year, month, day) := civil (monday + ((week - 1) * 7 + (day - 1) : Nat))
    some (year.toNat, month, day)
  else none

/-- One hyphen, if the date is written with hyphens. -/
def hyphen? (hyphens : Bool) (cs : List Char) : Option (List Char) :=
  if hyphens then expect? '-' cs else some cs

/-- Year, month and day: by month and day, or by week and weekday, the first one if there is
none. -/
def date? (cs : List Char) : Option (Nat × Nat × Nat) := do
  let (year, cs) ← digits? 4 cs
  let hyphens := cs.head? = some '-'
  let cs ← hyphen? hyphens cs
  match cs with
  | 'W' :: cs =>
    let (week, cs) ← digits? 2 cs
    if cs.isEmpty then dayOfWeek? year week 1
    else
      let (day, _) ← digits? 1 (← hyphen? hyphens cs)
      dayOfWeek? year week day
  | cs =>
    let (month, cs) ← digits? 2 cs
    let (day, cs) ← digits? 2 (← hyphen? hyphens cs)
    if cs.isEmpty && isDay year month day then some (year, month, day) else none

/-- How many characters the date takes up. Any character may follow it, also a digit, so by week the
number of digits decides: a time of day has an even number of them. -/
def dateLength (cs : List Char) : Nat :=
  let at? (n : Nat) : Option Char := cs[n]?
  let isDigitAt (n : Nat) : Bool := ((at? n).map Char.isDigit).getD false
  if cs.length = 7 then 7
  else if at? 4 = some '-' then
    if at? 5 = some 'W' then
      if at? 8 = some '-' && !isDigitAt 10 then 10 else 8
    else 10
  else if at? 4 = some 'W' then
    let digits := ((cs.drop 7).takeWhile Char.isDigit).length
    if digits < 2 then 7 + digits else if digits % 2 = 0 then 8 else 7
  else 8

/-! ## Times of day -/

/-- A time of day, and whether something is left over after it. -/
structure Clock where
  hour : Nat := 0
  minute : Nat := 0
  second : Nat := 0
  micro : Nat := 0
  isOpen : Bool := false

namespace Clock

/-- A fraction of a second; digits after the sixth are dropped. -/
def fraction? (cs : List Char) : Option (Nat × Bool) :=
  let width := min 6 cs.length
  (digits? width cs).map fun (n, rest) =>
    (n * Nat.pow 10 (6 - width), !(rest.dropWhile Char.isDigit).isEmpty)

/-- Up to `left` pairs of digits, then a fraction: the pairs, the fraction, and whether something is
left over. What follows the first pair says whether the pairs are separated by colons. -/
def pairs? : Nat → Option Bool → List Char → Option (List Nat × Nat × Bool)
  | 0, _, cs => (fraction? cs).map fun f => ([], f)
  | left + 1, separated, cs => do
    let (pair, cs) ← digits? 2 cs
    match cs with
    | [] => some ([pair], 0, false)
    | [_] => some ([pair], 0, true)
    | c :: rest =>
      let colons := separated.getD (c = ':')
      let (pairs, tail) ←
        if colons && c = ':' then pairs? left (some colons) rest
        else if c = '.' || c = ',' then (fraction? rest).map fun f => ([], f)
        else if !colons then pairs? left (some colons) cs
        else none
      some (pair :: pairs, tail)

/-- Reads a time of day. -/
def read? (cs : List Char) : Option Clock :=
  (pairs? 3 none cs).map fun (pairs, micro, isOpen) =>
    { hour := pairs.getD 0 0, minute := pairs.getD 1 0, second := pairs.getD 2 0, micro, isOpen }

def seconds (c : Clock) : Nat := c.hour * 3600 + c.minute * 60 + c.second

end Clock

/-- The offset from UTC: `Z`, or a sign and a time span below one day. -/
def givenZone? : List Char → Option Zone
  | ['Z'] => some (.given 0)
  | sign :: cs =>
    if sign = '+' || sign = '-' then do
      let span ← Clock.read? cs
      let micros : Int :=
        if span.seconds = 0 then 0 else (span.seconds * 1000000 + span.micro : Nat)
      if !span.isOpen && span.seconds < 86400 then
        some (.given (if sign = '-' then -micros else micros))
      else none
    else none
  | [] => none

/-- Whether a character begins a zone. -/
def beginsZone (c : Char) : Bool := c = '+' || c = '-' || c = 'Z'

/-- Reads a timestamp in any of the forms. -/
def ofIso? (s : String) : Option Timestamp := do
  let cs := s.toList
  let length := dateLength cs
  let (year, month, day) ← date? (cs.take length)
  let (clock, zone) ← match cs.drop length with
    | [] => some ({}, .unknown)
    | _ :: time =>
      let clock ← Clock.read? (time.takeWhile (!beginsZone ·))
      match time.dropWhile (!beginsZone ·) with
      | [] => if clock.isOpen then none else some (clock, .unknown)
      | zone => (givenZone? zone).map (clock, ·)
  if 1 ≤ year && year ≤ 9999 && clock.hour < 24 && clock.minute < 60 && clock.second < 60 then
    some ⟨year, month, day, clock.hour, clock.minute, clock.second, clock.micro, zone⟩
  else none

end BlockStorage.Timestamp
