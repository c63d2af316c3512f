import BlockStorage.Text.Printable

/-!
# Quoted text

How a text is shown inside a message: between quotes, with whatever is not
printable escaped, so that two different texts never look the same.

The quotes are single, unless the text holds a single quote and no double one.
A backslash and the chosen quote are escaped by a backslash; newline, return and
tab have short escapes; every other hidden character is written by its code in
two, four or eight hexadecimal digits.
-/

namespace BlockStorage.Text

/-- One hexadecimal digit in small letters. -/
def hexDigit (n : Nat) : Char :=
  if n < 10 then Char.ofNat ('0'.toNat + n) else Char.ofNat ('a'.toNat + (n - 10))

/-- The last `width` hexadecimal digits of a number. -/
def hexDigits : Nat → Nat → List Char
  | 0, _ => []
  | width + 1, n => hexDigits width (n / 16) ++ [hexDigit (n % 16)]

namespace Quoted

/-- The quote that goes around a text. -/
def mark (cs : List Char) : Char :=
  if cs.contains '\'' && !cs.contains '"' then '"' else '\''

/-- A character by its code, in two, four or eight hexadecimal digits. -/
def byCode (c : Char) : List Char :=
  if c.toNat < 0x100 then '\\' :: 'x' :: hexDigits 2 c.toNat
  else if c.toNat < 0x10000 then '\\' :: 'u' :: hexDigits 4 c.toNat
  else '\\' :: 'U' :: hexDigits 8 c.toNat

/-- One character between the quotes. -/
def escape (quote c : Char) : List Char :=
  if c = quote || c = '\\' then ['\\', c]
  else if c = '\n' then ['\\', 'n']
  else if c = '\r' then ['\\', 'r']
  else if c = '\t' then ['\\', 't']
  else if isPrintable c then [c]
  else byCode c

/-- The characters of the quoted form. -/
def encode (cs : List Char) : List Char :=
  let quote := mark cs
  quote :: (cs.flatMap (escape quote) ++ [quote])

end Quoted

/-- The quoted form of a text. -/
def quoted (s : String) : String := String.ofList (Quoted.encode s.toList)

/-- A text with everything outside ASCII written by its code. -/
def ascii (s : String) : String :=
  String.ofList (s.toList.flatMap fun c => if c.toNat < 0x80 then [c] else Quoted.byCode c)

end BlockStorage.Text
