import BlockStorage.Decimal.Binary
import BlockStorage.Text.Blank
import BlockStorage.Text.Digit

/-!
# Reading numerals

A numeral is an optional sign, digits with an optional point and an optional
exponent; a name of infinity or not-a-number may stand in its place. The readers
of this file differ in what they allow around and between the digits:

* `double?`: a bare numeral.
* `lenientDouble?`: blanks around it, or underscores anywhere inside as long as
  none is doubled, leading or trailing, but not both.
* `nativeDouble?`: blanks around it, underscores between two digits, and the
  decimal digits of every script.
* `lenientWhole`: a whole number with blanks around it, a plus sign, leading
  zeros, underscores, and a fraction of zeros.
* `nativeWhole?`: a whole number of the digits that `nativeDouble?` takes.

Whole numbers may be written with `digitLimit` digits at most.
-/

namespace BlockStorage.Decimal

/-- Folds decimal digits onto a number. -/
def accumulate (n : Nat) (ds : List Char) : Nat :=
  ds.foldl (fun acc d => acc * 10 + (d.toNat - '0'.toNat)) n

/-- `± m · 10 ^ e` as the nearest double. Past both ends of the range the answer is known without
computing the power. -/
def doubleOf (negative : Bool) (m : Nat) (e : Int) : Float :=
  let lead : Int := (toString m).length + e
  let size : Float :=
    if m = 0 || lead < -330 then 0.0
    else if 310 < lead then 1.0 / 0.0
    else match e with
      | .ofNat k => Float.ofScientific m false k
      | .negSucc k => Float.ofScientific m true (k + 1)
  if negative then -size else size

/-- Splits off a sign. -/
def takeSign : List Char → Bool × List Char
  | '-' :: cs => (true, cs)
  | '+' :: cs => (false, cs)
  | cs => (false, cs)

/-- What follows the digits of a numeral: nothing, or an exponent. -/
def exponent? : List Char → Option Int
  | [] => some 0
  | c :: cs =>
    if c = 'e' ∨ c = 'E' then
      let (negative, ds) := takeSign cs
      if ds.isEmpty || !ds.all Char.isDigit then none
      else
        let n : Int := accumulate 0 ds
        some (if negative then -n else n)
    else none

/-- An unsigned numeral: digits on at least one side of the point. -/
def unsigned? (negative : Bool) (cs : List Char) : Option Float :=
  let whole := cs.takeWhile Char.isDigit
  let rest := cs.dropWhile Char.isDigit
  match rest with
  | '.' :: tail =>
    let places := tail.takeWhile Char.isDigit
    if whole.isEmpty && places.isEmpty then none
    else (exponent? (tail.dropWhile Char.isDigit)).map fun e =>
      doubleOf negative (accumulate (accumulate 0 whole) places) (e - places.length)
  | rest =>
    if whole.isEmpty then none
    else (exponent? rest).map (doubleOf negative (accumulate 0 whole))

/-- A numeral, or a name of infinity or not-a-number in any case of letters. -/
def double? (cs : List Char) : Option Float :=
  let (negative, body) := takeSign cs
  let word := String.ofList (body.map Char.toLower)
  if word = "inf" || word = "infinity" then
    some (if negative then -1.0 / 0.0 else 1.0 / 0.0)
  else if word = "nan" then some (0.0 / 0.0)
  else unsigned? negative body

/-- Whether two underscores stand side by side. -/
def hasDoubled : List Char → Bool
  | '_' :: '_' :: _ => true
  | _ :: cs => hasDoubled cs
  | [] => false

/-- Takes the underscores out, where none is doubled, leading or trailing. -/
def withoutUnderscores? (cs : List Char) : Option (List Char) :=
  if cs.head? = some '_' || cs.getLast? = some '_' || !cs.contains '_' || hasDoubled cs then none
  else some (cs.filter (· ≠ '_'))

/-- A numeral with blanks around it, or one with single underscores inside and none around. -/
def lenientDouble? (s : String) : Option Float :=
  (double? (Text.trimWhere Text.isBlank s.toList)).orElse fun _ =>
    (withoutUnderscores? s.toList).bind double?

/-- Takes out underscores that stand between two digits; `before` says whether a digit precedes. -/
def joinDigits? (before : Bool) : List Char → Option (List Char)
  | [] => some []
  | '_' :: d :: cs =>
    if before && d.isDigit then (joinDigits? true cs).map (d :: ·) else none
  | ['_'] => none
  | c :: cs => (joinDigits? c.isDigit cs).map (c :: ·)

/-- What is left of a text without the blanks around it, its digits brought into one script and
joined. -/
def native? (s : String) : Option (List Char) :=
  joinDigits? false ((Text.trimWhere Text.isBlank s.toList).map Text.asciiDigit)

/-- A numeral in the digits of any script, with blanks around it and underscores between digits. -/
def nativeDouble? (s : String) : Option Float := (native? s).bind double?

/-! ## Whole numbers -/

/-- The most digits that a whole number may be written with. -/
def digitLimit : Nat := 4300

/-- A whole number in the digits of any script, with a sign, blanks around it and underscores
between digits, and however many digits. -/
def nativeWhole? (s : String) : Option Int :=
  (native? s).bind fun cs =>
    let (negative, ds) := takeSign cs
    if ds.isEmpty || !ds.all Char.isDigit then none
    else
      let n : Int := accumulate 0 ds
      some (if negative then -n else n)

/-- How many digits a text has, in whatever script. -/
def countDigits (s : String) : Nat :=
  (s.toList.filter fun c => (Text.digitValue? c).isSome).length

/-- A whole number without leading zeros. -/
def whole? (cs : List Char) : Option Int :=
  let (negative, ds) := match cs with
    | '-' :: r => (true, r)
    | r => (false, r)
  if ds.isEmpty || !ds.all Char.isDigit || (1 < ds.length && ds.head? = some '0') then none
  else
    let n : Int := accumulate 0 ds
    some (if negative then -n else n)

/-- Why a text holds no whole number. -/
inductive WholeIssue
  | malformed
  | overlong
  deriving DecidableEq, Repr

/-- Whether a text begins with more digits than a whole number may have. A sign counts as one. -/
def isOverlong (cs : List Char) : Bool :=
  let (sign, ds) : Nat × List Char := match cs with
    | '-' :: r => (1, r)
    | r => (0, r)
  ds.head? ≠ some '0' && digitLimit < sign + (ds.takeWhile Char.isDigit).length

/-- A whole number without leading zeros, if it is not too long. -/
def strictWhole (cs : List Char) : Except WholeIssue Int :=
  if isOverlong cs then .error .overlong
  else match whole? cs with
    | some n => .ok n
    | none => .error .malformed

/-- Drops zeros and underscores after a leading zero, down to the last zero before a point, the
first other digit, or a minus sign. -/
def dropLeadingZeros? : List Char → Option (List Char)
  | [] => none
  | '0' :: cs => go '0' cs
  | c :: cs => if c.isDigit || c = '-' then some (c :: cs) else none
where
  /-- `last` is the character dropped last. -/
  go (last : Char) : List Char → Option (List Char)
    | [] => some [last]
    | c :: cs =>
      if c = '0' || c = '_' then go c cs
      else if c.isDigit || c = '-' then some (c :: cs)
      else if c = '.' then some (last :: c :: cs)
      else none

/-- Drops a fraction that holds zeros and nothing else. -/
def dropZeroFraction (cs : List Char) : List Char :=
  match cs.dropWhile (· ≠ '.') with
  | '.' :: places =>
    if !places.isEmpty && places.all (· = '0') then cs.takeWhile (· ≠ '.') else cs
  | _ => cs

/-- The lenient clean-up: no blanks around, no plus sign, no leading zeros, no fraction of zeros, no
underscores. A minus sign stays in front. -/
def cleanWhole? (s : String) : Option (List Char) := do
  let (sign, body) ← match Text.trimWhere Text.isBlank s.toList with
    | '+' :: '-' :: _ => none
    | '+' :: r => some ([], r)
    | '-' :: r => some (['-'], r)
    | r => some ([], r)
  let digits := dropZeroFraction (← dropLeadingZeros? body)
  some (sign ++ (withoutUnderscores? digits).getD digits)

/-- A whole number, plain or after the lenient clean-up. -/
def lenientWhole (s : String) : Except WholeIssue Int :=
  match strictWhole s.toList with
  | .error .malformed => match cleanWhole? s with
    | some cs => strictWhole cs
    | none => .error .malformed
  | outcome => outcome

end BlockStorage.Decimal
