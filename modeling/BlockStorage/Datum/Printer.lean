import BlockStorage.Datum

/-!
# Data as text

`Datum.write` prints a datum in the interchange notation: ASCII only, `", "` and
`": "` between parts, everything outside printable ASCII as `\u` escapes of its
UTF-16 units. `Datum.sorted` puts the fields of every record into the order of
their names, so that equal data have equal texts.
-/

namespace BlockStorage.Datum

/-- The UTF-16 units of a character. -/
def units16 (c : Char) : List Nat :=
  let n := c.toNat
  if n < 0x10000 then [n]
  else [0xd800 + (n - 0x10000) / 0x400, 0xdc00 + (n - 0x10000) % 0x400]

/-- One character inside a written text. -/
def escaped (c : Char) : List Char :=
  if c = '"' then ['\\', '"']
  else if c = '\\' then ['\\', '\\']
  else if c = '\n' then ['\\', 'n']
  else if c = '\r' then ['\\', 'r']
  else if c = '\t' then ['\\', 't']
  else if c = '\x0c' then ['\\', 'f']
  else if c = '\x08' then ['\\', 'b']
  else if 0x20 ≤ c.toNat ∧ c.toNat < 0x7f then [c]
  else (units16 c).flatMap fun u => '\\' :: 'u' :: Text.hexDigits 4 u

/-- A text between double quotes. -/
def writeText (s : String) : String :=
  String.ofList ('"' :: (s.toList.flatMap escaped ++ ['"']))

/-- The layout of doubles in the interchange notation. -/
def layout : Decimal.Layout :=
  { Decimal.Layout.plain with infinity := "Infinity", notANumber := "NaN" }

mutual

/-- The text of a datum in the interchange notation. -/
def write : Datum → String
  | null => "null"
  | bool true => "true"
  | bool false => "false"
  | int n => toString n
  | real x => Decimal.write layout x
  | text s => writeText s
  | list xs => "[" ++ ", ".intercalate (writeAll xs) ++ "]"
  | record fs => "\x7b" ++ ", ".intercalate (writeFields fs) ++ "\x7d"

def writeAll : List Datum → List String
  | [] => []
  | x :: xs => write x :: writeAll xs

def writeFields : List (String × Datum) → List String
  | [] => []
  | (k, v) :: fs => (writeText k ++ ": " ++ write v) :: writeFields fs

end

mutual

/-- The same datum with the fields of every record in the order of their names. -/
def sorted : Datum → Datum
  | list xs => list (sortedAll xs)
  | record fs => record ((sortedFields fs).mergeSort fun a b => a.1 ≤ b.1)
  | d => d

def sortedAll : List Datum → List Datum
  | [] => []
  | x :: xs => sorted x :: sortedAll xs

def sortedFields : List (String × Datum) → List (String × Datum)
  | [] => []
  | (k, v) :: fs => (k, sorted v) :: sortedFields fs

end

/-- The text by which a set of data is put in order. -/
def sortKey (d : Datum) : String := d.sorted.write

/-- Data in the order of their texts. -/
def inOrder (ds : List Datum) : List Datum :=
  (ds.map fun d => (d.sortKey, d)).mergeSort (fun a b => a.1 ≤ b.1) |>.map (·.2)

end BlockStorage.Datum
