import BlockStorage.Datum

/-!
# Reading data

`Datum.read?` reads one value in the interchange notation. A numeral without
point and exponent is a whole number and any other is a double; `NaN`,
`Infinity` and `-Infinity` are doubles too. Of a name written twice in a record
the last value counts. Half of a surrogate pair becomes the replacement
character.

The readers take what is left of the text and return the rest with the value.
Recursion is on a bound for the depth of nesting and the number of items, which
`read?` takes from the length of the text: no bracket, item or character costs more than two.
-/

namespace BlockStorage.Datum

/-- Skips the four blank characters of the notation. -/
def skipBlank (cs : List Char) : List Char :=
  cs.dropWhile fun c => c = ' ' || c = '\t' || c = '\n' || c = '\r'

/-- The value of a hexadecimal digit. -/
def hexValue? (c : Char) : Option Nat :=
  if '0' ≤ c ∧ c ≤ '9' then some (c.toNat - '0'.toNat)
  else if 'a' ≤ c ∧ c ≤ 'f' then some (c.toNat - 'a'.toNat + 10)
  else if 'A' ≤ c ∧ c ≤ 'F' then some (c.toNat - 'A'.toNat + 10)
  else none

/-- Four hexadecimal digits. -/
def hex4? : List Char → Option (Nat × List Char)
  | a :: b :: c :: d :: rest => do
    let n := (← hexValue? a) * 4096 + (← hexValue? b) * 256 + (← hexValue? c) * 16 + (← hexValue? d)
    some (n, rest)
  | _ => none

/-- A `\u` escape after its `u`; a high unit takes the low unit that follows it. -/
def unicode? (cs : List Char) : Option (Char × List Char) := do
  let (n, rest) ← hex4? cs
  if 0xd800 ≤ n ∧ n < 0xdc00 then
    match rest with
    | '\\' :: 'u' :: tail =>
      match hex4? tail with
      | some (m, rest') =>
        if 0xdc00 ≤ m ∧ m < 0xe000 then
          some (Char.ofNat (0x10000 + (n - 0xd800) * 0x400 + (m - 0xdc00)), rest')
        else some ('\ufffd', rest)
      | none => some ('\ufffd', rest)
    | _ => some ('\ufffd', rest)
  else if 0xdc00 ≤ n ∧ n < 0xe000 then some ('\ufffd', rest)
  else some (Char.ofNat n, rest)

/-- The character of a one-letter escape. -/
def letterEscape? (c : Char) : Option Char :=
  if c = '"' ∨ c = '\\' ∨ c = '/' then some c
  else if c = 'n' then some '\n'
  else if c = 'r' then some '\r'
  else if c = 't' then some '\t'
  else if c = 'b' then some '\x08'
  else if c = 'f' then some '\x0c'
  else none

/-- The rest of a text after its opening quote; `done` holds the characters so far, last first. -/
def readText : Nat → List Char → List Char → Option (String × List Char)
  | 0, _, _ => none
  | _ + 1, _, [] => none
  | fuel + 1, done, c :: cs =>
    if c = '"' then some (String.ofList done.reverse, cs)
    else if c = '\\' then
      match cs with
      | 'u' :: tail => do
        let (u, rest) ← unicode? tail
        readText fuel (u :: done) rest
      | e :: rest => do
        let u ← letterEscape? e
        readText fuel (u :: done) rest
      | [] => none
    else if c.toNat < 0x20 then none
    else readText fuel (c :: done) cs

/-- A numeral: a whole number, or a double if it has a point or an exponent. A whole number with too
many digits is not read. -/
def readNumber (cs : List Char) : Option (Datum × List Char) :=
  let (negative, body) := match cs with
    | '-' :: r => (true, r)
    | r => (false, r)
  let whole := body.takeWhile Char.isDigit
  let whole := if whole.head? = some '0' then ['0'] else whole
  if whole.isEmpty then none else
  let rest := body.drop whole.length
  let (places, rest) := match rest with
    | '.' :: d :: tail =>
      if d.isDigit then ((d :: tail).takeWhile Char.isDigit, (d :: tail).dropWhile Char.isDigit)
      else ([], rest)
    | _ => ([], rest)
  let (power, rest) := match rest with
    | e :: tail =>
      let digits := (Decimal.takeSign tail).2
      if (e = 'e' ∨ e = 'E') ∧ (digits.head?.map Char.isDigit).getD false then
        let ds := digits.takeWhile Char.isDigit
        (tail.take (tail.length - digits.length) ++ ds, digits.drop ds.length)
      else ([], rest)
    | [] => ([], rest)
  let m := Decimal.accumulate (Decimal.accumulate 0 whole) places
  if places.isEmpty && power.isEmpty then
    if Decimal.digitLimit < whole.length then none
    else some (int (if negative then -m else m), rest)
  else
    let (down, ds) := Decimal.takeSign power
    let e : Int := Decimal.accumulate 0 ds
    let e := (if down then -e else e) - places.length
    some (real (Decimal.doubleOf negative m e), rest)

/-- What is left after a word. -/
def after? : List Char → List Char → Option (List Char)
  | [], cs => some cs
  | _ :: _, [] => none
  | w :: ws, c :: cs => if w = c then after? ws cs else none

/-- The words of the notation and the data they stand for. -/
def words : List (String × Datum) :=
  [("null", null), ("true", bool true), ("false", bool false), ("NaN", real (0.0 / 0.0)),
    ("Infinity", real (1.0 / 0.0)), ("-Infinity", real (-1.0 / 0.0))]

mutual

/-- One value and the rest of the text. -/
def readValue : Nat → List Char → Option (Datum × List Char)
  | 0, _ => none
  | fuel + 1, cs =>
    match cs with
    | '"' :: rest => (readText fuel [] rest).map fun r => (text r.1, r.2)
    | '[' :: rest =>
      match skipBlank rest with
      | ']' :: rest => some (list [], rest)
      | rest => readItems fuel [] rest
    | '\x7b' :: rest =>
      match skipBlank rest with
      | '\x7d' :: rest => some (record [], rest)
      | rest => readFields fuel [] rest
    | cs =>
      match words.findSome? fun w => (after? w.1.toList cs).map fun rest => (w.2, rest) with
      | some r => some r
      | none => readNumber cs

/-- The items of a list after its bracket; `done` holds those so far, last first. -/
def readItems : Nat → List Datum → List Char → Option (Datum × List Char)
  | 0, _, _ => none
  | fuel + 1, done, cs => do
    let (v, rest) ← readValue fuel (skipBlank cs)
    match skipBlank rest with
    | ',' :: rest => readItems fuel (v :: done) rest
    | ']' :: rest => some (list (v :: done).reverse, rest)
    | _ => none

/-- The fields of a record after its brace; `done` holds those so far, last first. -/
def readFields : Nat → List (String × Datum) → List Char → Option (Datum × List Char)
  | 0, _, _ => none
  | fuel + 1, done, cs => do
    match skipBlank cs with
    | '"' :: rest =>
      let (k, rest) ← readText fuel [] rest
      match skipBlank rest with
      | ':' :: rest =>
        let (v, rest) ← readValue fuel (skipBlank rest)
        match skipBlank rest with
        | ',' :: rest => readFields fuel ((k, v) :: done) rest
        | '\x7d' :: rest => some (record (Table.ofPairs ((k, v) :: done).reverse), rest)
        | _ => none
      | _ => none
    | _ => none

end

/-- Reads a text that holds one value and blanks around it. -/
def read? (s : String) : Option Datum :=
  let cs := s.toList
  match readValue (2 * cs.length + 2) (skipBlank cs) with
  | some (v, rest) => if (skipBlank rest).isEmpty then some v else none
  | none => none

end BlockStorage.Datum
