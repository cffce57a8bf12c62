import SharedChannel.Logging.Numeral
import SharedChannel.Logging.Record

/-!
Conversions of log lines: how a field is shown. A conversion has flags, a width, a precision and a
letter; `convert` shows a field by the letter and the precision, and `pad` fills it up to the width.
What would be too long for a line is not shown at all.
-/

namespace SharedChannel.Logging

/-- How a conversion shows its field. -/
structure Conversion where
  flags : List Char
  width : Nat
  precision : Option Nat
  letter : Char
deriving DecidableEq, Repr

/-- A shown field: a sign of its own, a base mark and the rest. Only numbers take signs and
zeros. -/
structure Shown where
  numeric : Bool
  minus : Bool := false
  base : List Char := []
  body : List Char
deriving DecidableEq, Repr

namespace Conversion

/-- Widths and precisions are less than these. -/
def widthLimit : Nat := Nat.pow 2 63
def precisionLimit : Nat := Nat.pow 2 31

/-- What is padded is shorter than this. -/
def lengthLimit : Nat := precisionLimit - 3

def has (c : Conversion) (flag : Char) : Bool := c.flags.contains flag

/-- The field padded to the width of the conversion, zeros between sign and digits. -/
def pad (c : Conversion) (s : Shown) : Option (List Char) :=
  let sign : List Char :=
    if !s.numeric then []
    else if s.minus then ['-']
    else if c.has '+' then ['+']
    else if c.has ' ' then [' ']
    else []
  let head := sign ++ s.base
  let gap := c.width - (head.length + s.body.length)
  if lengthLimit ≤ c.width then none
  else if c.has '-' then some (head ++ s.body ++ List.replicate gap ' ')
  else if s.numeric && c.has '0' then some (head ++ List.replicate gap '0' ++ s.body)
  else some (List.replicate gap ' ' ++ head ++ s.body)

def upper (cs : List Char) : List Char := cs.map Char.toUpper

/-- A whole number in a base, with at least as many digits as the precision says. -/
def showWhole (c : Conversion) (n : Int) : Option Shown :=
  let base := if c.letter == 'o' then 8 else if c.letter == 'x' || c.letter == 'X' then 16 else 10
  let length := c.precision.getD 0
  if lengthLimit ≤ length then none
  else
    let digits := Nat.toDigits base n.natAbs
    let digits := List.replicate (length - digits.length) '0' ++ digits
    some {
      numeric := true
      minus := n < 0
      base := if c.has '#' && base != 10 then ['0', c.letter] else []
      body := if c.letter == 'X' then upper digits else digits }

/-- The decimals of a numeral, six unless the precision says otherwise. The largest precision leaves
none in scientific notation. -/
def decimals (c : Conversion) : Decimals :=
  let count := c.precision.getD 6
  let scientific := c.letter == 'e' || c.letter == 'E'
  ⟨if scientific && count + 1 == precisionLimit then 0 else count, c.has '#'⟩

/-- A whole number as a floating-point one. -/
def showPoint (c : Conversion) (n : Int) : Option Shown :=
  let d := c.decimals
  let general := c.letter == 'g' || c.letter == 'G'
  if lengthLimit ≤ d.count && !(general && !d.keep) then none
  else
    let body :=
      if general then d.general (if c.letter == 'G' then 'E' else 'e') n.natAbs
      else if c.letter == 'f' || c.letter == 'F' then d.fixed n.natAbs
      else d.scientific c.letter n.natAbs
    some { numeric := true, minus := n < 0, body }

/-- A text, cut to the precision. -/
def showText (c : Conversion) (s : String) : Shown :=
  let cs := s.toList
  { numeric := false, body := (c.precision.map cs.take).getD cs }

/-- The whole number that a numeric field holds, rounded to floating point. -/
def point? (v : Value) : Option Int := do
  let x ←
    match v with
    | .int n => some (Binary64.ofInt n)
    | .float x => some x
    | _ => none
  let q ← x.value?
  if q.den == 1 then some q.num else none

/-- The character of a number, if it is one. -/
def char? (n : Int) : Option Char :=
  if 0 ≤ n && n.toNat.isValidChar then some (Char.ofNat n.toNat) else none

/-- The value as a conversion shows it, unless the letter does not suit it. -/
def convertValue (c : Conversion) (v : Value) : Option Shown :=
  if c.letter == 's' then some (showText c v.inFull)
  else if c.letter == 'r' then some (showText c v.quoted)
  else if c.letter == 'a' then some (showText c (Text.inAscii v.quoted))
  else if c.letter == 'd' || c.letter == 'i' || c.letter == 'u' then
    match v with
    | .int n => showWhole c n
    | v => (point? v).bind (showWhole c)
  else if c.letter == 'o' || c.letter == 'x' || c.letter == 'X' then
    match v with
    | .int n => showWhole c n
    | _ => none
  else if "eEfFgG".toList.contains c.letter then (point? v).bind (showPoint c)
  else if c.letter == 'c' then
    match v with
    | .int n => (char? n).map fun ch => { numeric := false, body := [ch] }
    | .text s =>
      match s.toList with
      | [ch] => some { numeric := false, body := [ch] }
      | _ => none
    | _ => none
  else none

/-- The field as a conversion shows it. -/
def convert (c : Conversion) : Field → Option Shown
  | .value v => convertValue c v
  | .written s =>
    if c.letter == 's' || c.letter == 'r' then some (showText c s)
    else if c.letter == 'a' then some (showText c (Text.inAscii s))
    else none

end Conversion

end SharedChannel.Logging
