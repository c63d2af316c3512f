import BlockStorage.Datum.Access
import BlockStorage.Decimal.Significant

/-!
# Message templates

A template has places for arguments. A place begins with a percent sign, may name
a key in parentheses, and goes on with flags, a width, a number of digits, and a
letter that says what to write:

* `s`, `r`, `a`: the plain text of an argument, the text that tells kinds apart,
  and that text in ASCII;
* `d`, `i`, `u`, `o`, `x`, `X`: a whole number in base ten, eight or sixteen;
* `e`, `f`, `g` and their capitals: a double;
* `c`: one character.

A star in place of a width or a number of digits takes it from the arguments. Two
percent signs side by side stand for one.

* `Template.Arguments`: several arguments, or a single one whose keys can be named.
* `Template.fill`: the text of a template with its arguments.
-/

namespace BlockStorage.Template

/-! ## Places -/

/-- How a place is written. -/
structure Place where
  flags : List Char := []
  width : Nat := 0
  digits : Option Nat := none
  conversion : Char := 's'

namespace Place

def has (p : Place) (flag : Char) : Bool := p.flags.contains flag

/-- Fills up to the width: after the text, with zeros after the sign, or with blanks before. -/
def padded (p : Place) (isNumber : Bool) (front body : String) : String :=
  let gap := p.width - (front.length + body.length)
  if p.has '-' then front ++ body ++ String.ofList (List.replicate gap ' ')
  else if p.has '0' && isNumber then front ++ String.ofList (List.replicate gap '0') ++ body
  else String.ofList (List.replicate gap ' ') ++ front ++ body

/-- A text, cut to the number of digits. -/
def text (p : Place) (s : String) : String :=
  p.padded false "" (match p.digits with
    | some n => String.ofList (s.toList.take n)
    | none => s)

/-- The sign of a number. -/
def sign (p : Place) (negative : Bool) : String :=
  if negative then "-" else if p.has '+' then "+" else if p.has ' ' then " " else ""

/-- The base of a whole number. -/
def base (p : Place) : Nat :=
  if p.conversion = 'o' then 8 else if p.conversion = 'x' || p.conversion = 'X' then 16 else 10

/-- Letters in capitals where the conversion is one. -/
def cased (p : Place) (s : String) : String :=
  if p.conversion.isUpper then String.ofList (s.toList.map Char.toUpper) else s

/-- A whole number with its sign and, on demand, the mark of its base. -/
def whole (p : Place) (n : Int) : String :=
  let mark := if p.has '#' && p.base ≠ 10 then String.ofList ['0', p.conversion] else ""
  let digits := String.ofList (Nat.toDigits p.base n.natAbs)
  p.padded true (p.sign (n < 0) ++ mark) (p.cased (Decimal.padLeft (p.digits.getD 1) digits))

/-- A double. -/
def real (p : Place) (x : Float) : String :=
  let places := p.digits.getD 6
  let bare := p.has '#'
  let c := p.conversion.toLower
  let s :=
    if c = 'e' then Decimal.exponential places bare x
    else if c = 'g' then Decimal.general places bare x
    else Decimal.fixed places x ++ (if bare && places = 0 && x.isFinite then "." else "")
  match s.toList with
  | '-' :: digits => p.padded true "-" (p.cased (String.ofList digits))
  | _ => p.padded true (p.sign false) (p.cased s)

/-! ## Arguments at places -/

/-- A refusal of an argument or a template. -/
def refuse {α : Type} (why : TemplateIssue) : Except Fault α := .error (.misuse (.template why))

/-- The largest number of a character. -/
def lastCharacter : Nat := 0x10ffff

/-- The most digits that a whole number is filled up to. -/
def mostDigits : Nat := Nat.pow 2 31 - 4

/-- The most columns that there is memory for. -/
def mostColumns : Nat := Nat.pow 2 40

/-- An argument as a whole number. A double is cut off in base ten and refused in the others. -/
def wholeOf (p : Place) (d : Datum) : Except Fault Int :=
  match d with
  | .int n => .ok n
  | .bool b => .ok (if b then 1 else 0)
  | .real x =>
    if p.base = 10 then (Amount.real x).truncated
    else refuse (.wholeRequired p.conversion d.kindName)
  | _ =>
    if p.base = 10 then refuse (.numberRequired p.conversion d.kindName)
    else refuse (.wholeRequired p.conversion d.kindName)

/-- An argument as a double; a text does not count as one. -/
def realOf (d : Datum) : Except Fault Float :=
  match d with
  | .int _ | .bool _ | .real _ => d.asReal
  | _ => refuse (.realRequired d.kindName)

/-- An argument as a character: a text of one character, or its number. -/
def characterOf : Datum → Except Fault Char
  | .text s => match s.toList with
    | [c] => .ok c
    | _ => refuse .characterRequired
  | .int n => numbered n
  | .bool b => numbered (if b then 1 else 0)
  | _ => refuse .characterRequired
where
  numbered (n : Int) : Except Fault Char :=
    if 0 ≤ n && n ≤ lastCharacter then .ok (Char.ofNat n.toNat) else refuse .noSuchCharacter

/-- The text of an argument at a place; `index` is where the letter stands. -/
def write (p : Place) (index : Nat) (d : Datum) : Except Fault String := do
  let c := p.conversion
  if mostColumns < p.width then refuse .noMemory
  else if c = 's' then return p.text d.plain
  else if c = 'r' then return p.text d.shown
  else if c = 'a' then return p.text (Text.ascii d.shown)
  else if ['d', 'i', 'u', 'o', 'x', 'X'].contains c then
    let n ← p.wholeOf d
    if mostDigits < p.digits.getD 0 then refuse .paddingTooLarge else return p.whole n
  else if ['e', 'E', 'f', 'F', 'g', 'G'].contains c then return p.real (← realOf d)
  else if c = 'c' then return p.padded false "" (String.ofList [← characterOf d])
  else refuse (.unknown c index)

end Place

/-! ## Supplies of arguments -/

/-- What a template is filled with. -/
inductive Arguments
  | several (items : List Datum)
  /-- One argument; if it is a record, places can name its keys. -/
  | single (item : Datum)

/-- Whether there is anything to fill a template with. -/
def Arguments.isAny : Arguments → Bool
  | several items => !items.isEmpty
  | single item => item.isTruthy

/-- The arguments that are left, and the one whose keys can be named. -/
structure Supply where
  items : List Datum
  keyed : Option Datum := none

namespace Supply

def ofArguments : Arguments → Supply
  | .several items => ⟨items, none⟩
  | .single item => match item with
    | .record _ | .list _ => ⟨[item], some item⟩
    | _ => ⟨[item], none⟩

/-- The next argument. -/
def next (s : Supply) : Except Fault (Datum × Supply) :=
  match s.items with
  | d :: ds => .ok (d, { s with items := ds })
  | [] => Place.refuse .tooFewArguments

/-- The next argument as a whole number that fits a signed word, called by its name. -/
def nextWhole (s : Supply) (bits : Nat) (word : String) : Except Fault (Int × Supply) := do
  let (d, s) ← s.next
  let n ← match d with
    | .int n => pure n
    | .bool b => pure (if b then 1 else 0)
    | _ => Place.refuse .starNotWhole
  if -(Nat.pow 2 bits) ≤ n && n < Nat.pow 2 bits then return (n, s)
  else Place.refuse (.starTooLarge word)

/-- The value of a key as all that is left. -/
def named (s : Supply) (key : String) : Except Fault Supply :=
  match s.keyed with
  | none => Place.refuse .notKeyed
  | some d => (d.key key).map fun v => { s with items := [v] }

/-- What is left at the end is an error, unless its keys could have been named. -/
def close (s : Supply) : Except Fault Unit :=
  if s.items.isEmpty || s.keyed.isSome then .ok () else Place.refuse .tooManyArguments

end Supply

/-! ## Reading places -/

def isFlag (c : Char) : Bool := ['-', '+', ' ', '0', '#'].contains c

/-- The characters up to the parenthesis that closes, and the rest; `depth` more are open. -/
def key? (depth : Nat) : List Char → Option (List Char × List Char)
  | [] => none
  | c :: cs =>
    let more (depth : Nat) := (key? depth cs).map fun r => (c :: r.1, r.2)
    if c = '(' then more (depth + 1)
    else if c = ')' then (match depth with
      | 0 => some ([], cs)
      | depth + 1 => more depth)
    else more depth

/-- What is left of a template and of the arguments. -/
abbrev Rest := List Char × Supply

/-- A key in parentheses, if there is one. -/
def readKey (cs : List Char) (s : Supply) : Except Fault Rest :=
  match cs with
  | '(' :: cs =>
    if s.keyed.isNone then Place.refuse .notKeyed
    else match key? 0 cs with
      | none => Place.refuse .openKey
      | some (key, cs) => (s.named (String.ofList key)).map fun s => (cs, s)
  | cs => .ok (cs, s)

/-- The width, if there is one. A negative one from the arguments means the left side. -/
def readWidth (cs : List Char) (s : Supply) : Except Fault (Int × Rest) :=
  match cs with
  | '*' :: cs => (s.nextWhole 63 "ssize_t").map fun (n, s) => (n, cs, s)
  | cs =>
    let n := Decimal.accumulate 0 (cs.takeWhile Char.isDigit)
    if n < Nat.pow 2 63 then .ok (n, cs.dropWhile Char.isDigit, s) else Place.refuse .widthTooLarge

/-- The number of digits, if there is a point. -/
def readDigits (cs : List Char) (s : Supply) : Except Fault (Option Nat × Rest) :=
  match cs with
  | '.' :: '*' :: cs => (s.nextWhole 31 "int").map fun (n, s) => (some n.toNat, cs, s)
  | '.' :: cs =>
    let n := Decimal.accumulate 0 (cs.takeWhile Char.isDigit)
    if n < Nat.pow 2 31 then .ok (some n, cs.dropWhile Char.isDigit, s)
    else Place.refuse .digitsTooMany
  | cs => .ok (none, cs, s)

/-- Skips a letter for the size of an argument, which means nothing. -/
def skipSize : List Char → List Char
  | c :: cs => if c = 'h' || c = 'l' || c = 'L' then cs else c :: cs
  | [] => []

/-- Reads a place after its percent sign. -/
def readPlace (cs : List Char) (s : Supply) : Except Fault (Place × Rest) := do
  let (cs, s) ← readKey cs s
  let flags := cs.takeWhile isFlag
  let (width, cs, s) ← readWidth (cs.dropWhile isFlag) s
  let flags := if width < 0 then '-' :: flags else flags
  let (digits, cs, s) ← readDigits cs s
  match skipSize cs with
  | conversion :: cs => return (⟨flags, width.natAbs, digits, conversion⟩, cs, s)
  | [] => Place.refuse .openPlace

/-! ## Filling -/

/-- Fills the places from left to right. A place takes up one character at least, so the length of
the template bounds the number of steps. -/
def go (whole : Nat) : Nat → List Char → Supply → Except Fault (List Char)
  | 0, _, _ => .ok []
  | steps + 1, cs, s =>
    match cs with
    | [] => s.close.map fun _ => []
    | '%' :: '%' :: cs => (go whole steps cs s).map ('%' :: ·)
    | '%' :: cs => do
      let (place, cs, s) ← readPlace cs s
      let (d, s) ← s.next
      let text ← place.write (whole - cs.length - 1) d
      return text.toList ++ (← go whole steps cs s)
    | c :: cs => (go whole steps cs s).map (c :: ·)

/-- The text of a template with its arguments. -/
def fill (template : String) (arguments : Arguments) : Except Fault String :=
  (go template.length (template.length + 1) template.toList (.ofArguments arguments)).map
    String.ofList

end BlockStorage.Template
