import SharedChannel.Number.Shortest
import SharedChannel.Text.Blank
import SharedChannel.Text.Digit

/-!
Reading floating-point numbers. A numeral is an optional sign and either digits with an optional
point and exponent, or a word for infinity or for no number. Blanks around it are dropped, decimal
digits of any script count, and underscores may stand between digits. `parse?` gives the number
nearest to the numeral.
-/

namespace SharedChannel

namespace Numeral

def isAsciiDigit (c : Char) : Bool := '0' ≤ c && c ≤ '9'

def isAsciiBlank (c : Char) : Bool := c == ' ' || ('\t' ≤ c && c ≤ '\r')

def lowerAscii (c : Char) : Char := if 'A' ≤ c && c ≤ 'Z' then Char.ofNat (c.toNat + 32) else c

/-- A character outside ASCII as the blank or digit that it stands for. Others cannot belong to a
numeral and stay. -/
def toAscii (c : Char) : Char :=
  if c.toNat < 0x80 then c
  else if Text.isBlank c then ' '
  else
    match Text.decimalValue? c with
    | some d => Nat.digitChar d
    | none => c

def strip (cs : List Char) : List Char :=
  ((cs.dropWhile isAsciiBlank).reverse.dropWhile isAsciiBlank).reverse

/-- Drops the underscores, each of which must stand between two digits. -/
def joinDigits (previous : Char) : List Char → Option (List Char)
  | [] => some []
  | '_' :: next :: rest =>
    if isAsciiDigit previous && isAsciiDigit next then
      (next :: ·) <$> joinDigits next rest
    else none
  | ['_'] => none
  | c :: rest => (c :: ·) <$> joinDigits c rest

/-- An optional sign: whether it is a minus, and what follows. -/
def sign : List Char → Bool × List Char
  | '-' :: rest => (true, rest)
  | '+' :: rest => (false, rest)
  | cs => (false, cs)

/-- The exponent part up to the end of the numeral. -/
def exponent? : List Char → Option Int
  | [] => some 0
  | c :: rest =>
    if lowerAscii c == 'e' then
      let (negative, digits) := sign rest
      if digits.isEmpty || !digits.all isAsciiDigit then none
      else
        let n : Int := Text.numeralValue digits
        some (if negative then -n else n)
    else none

/-- The number nearest to `± digits · 10 ^ exponent`. Far outside the range of exponents the
answer is known without the power. -/
def scaled (negative : Bool) (digits : Nat) (exponent : Int) : Binary64 :=
  if digits == 0 then .finite negative 0 Binary64.minExponent
  else
    let first := exponent + Decimal.digitCount digits
    if 400 < first then .infinite negative
    else if first < -400 then .finite negative 0 Binary64.minExponent
    else
      Binary64.roundFraction negative (digits * Nat.pow 10 exponent.toNat)
        (Nat.pow 10 (-exponent).toNat)

def decimal? (negative : Bool) (cs : List Char) : Option Binary64 :=
  let whole := cs.takeWhile isAsciiDigit
  let rest := cs.dropWhile isAsciiDigit
  let (part, rest) :=
    match rest with
    | '.' :: tail => (tail.takeWhile isAsciiDigit, tail.dropWhile isAsciiDigit)
    | _ => ([], rest)
  if whole.isEmpty && part.isEmpty then none
  else do
    let e ← exponent? rest
    return scaled negative (Text.numeralValue (whole ++ part)) (e - part.length)

def unsigned? (negative : Bool) (cs : List Char) : Option Binary64 :=
  let word := String.ofList (cs.map lowerAscii)
  if word == "inf" || word == "infinity" then some (.infinite negative)
  else if word == "nan" then some .nan
  else decimal? negative cs

end Numeral

open Numeral in
/-- The number that a text denotes, if it is a numeral. -/
def Binary64.parse? (s : String) : Option Binary64 := do
  let cs ← joinDigits ' ' (strip (s.toList.map toAscii))
  let (negative, rest) := sign cs
  unsigned? negative rest

end SharedChannel
