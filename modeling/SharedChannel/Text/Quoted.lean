import SharedChannel.Text.Printable

/-!
Quoted texts. A text is written between single quotes, or between double quotes if it holds a
single quote and no double one. The backslash and the chosen quote take a backslash, line feed,
carriage return and tab have letters of their own, and every other character that is not
printable is written by its code point in the shortest of two, four or eight digits.
-/

namespace SharedChannel.Text

/-- The lowest `width` hexadecimal digits of `n`, most significant first. -/
def hexDigits : Nat → Nat → List Char
  | 0, _ => []
  | width + 1, n => hexDigits width (n / 16) ++ [Nat.digitChar (n % 16)]

def quoteMark (cs : List Char) : Char :=
  if cs.contains '\'' && !cs.contains '"' then '"' else '\''

def codePointEscape (n : Nat) : List Char :=
  if n < 0x100 then '\\' :: 'x' :: hexDigits 2 n
  else if n < 0x10000 then '\\' :: 'u' :: hexDigits 4 n
  else '\\' :: 'U' :: hexDigits 8 n

/-- One character inside a text quoted by `mark`, where `plain` characters stand for
themselves. -/
def escapeChar (plain : Char → Bool) (mark c : Char) : List Char :=
  if c == '\\' || c == mark then ['\\', c]
  else if c == '\n' then ['\\', 'n']
  else if c == '\r' then ['\\', 'r']
  else if c == '\t' then ['\\', 't']
  else if plain c then [c]
  else codePointEscape c.toNat

def quoteWith (plain : Char → Bool) (s : String) : String :=
  let mark := quoteMark s.toList
  String.ofList (mark :: s.toList.flatMap (escapeChar plain mark) ++ [mark])

/-- The text in quotes, printable characters as they are. -/
def quoted (s : String) : String := quoteWith isPrintable s

def isPlainAscii (c : Char) : Bool := 0x20 ≤ c.toNat && c.toNat < 0x7f

/-- The text in quotes, with ASCII characters alone. -/
def quotedAscii (s : String) : String := quoteWith isPlainAscii s

/-- The text with its characters outside ASCII escaped. -/
def inAscii (s : String) : String :=
  String.ofList (s.toList.flatMap fun c => if c.toNat < 0x80 then [c] else codePointEscape c.toNat)

/-- Bytes in quotes: as a text of the characters of the same numbers, in ASCII and marked by a
leading `b`. -/
def quotedBytes (bytes : List UInt8) : String :=
  "b" ++ quotedAscii (String.ofList (bytes.map fun b => Char.ofNat b.toNat))

end SharedChannel.Text
