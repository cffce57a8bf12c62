import SharedChannel.Number.Shortest

/-!
Numerals in log lines: whole numbers with a given number of decimals, in fixed, scientific or
general notation. What does not fit the decimals is rounded to the nearest, a tie to even.
-/

namespace SharedChannel.Logging

/-- The decimals of a numeral, and whether its point and zeros are kept where they say nothing. -/
structure Decimals where
  count : Nat
  keep : Bool
deriving DecidableEq, Repr

namespace Decimals

def point (d : Decimals) : List Char := if d.count == 0 && !d.keep then [] else ['.']

def fixed (d : Decimals) (n : Nat) : List Char :=
  Nat.toDigits 10 n ++ d.point ++ List.replicate d.count '0'

/-- The first `count` digits of `n` after rounding, and the exponent of the first of them. -/
def significant (count n : Nat) : List Char × Nat :=
  let length := Decimal.digitCount n
  if length ≤ count then
    (Nat.toDigits 10 n ++ List.replicate (count - length) '0', length - 1)
  else
    let m := Binary64.roundQuotient n (Nat.pow 10 (length - count))
    if Decimal.digitCount m ≤ count then (Nat.toDigits 10 m, length - 1)
    else (Nat.toDigits 10 (m / 10), length)

def scientificDigits (d : Decimals) (mark : Char) (digits : List Char) (e : Nat) : List Char :=
  digits.take 1 ++ d.point ++ digits.drop 1 ++ mark :: Binary64.signedExponent e

def scientific (d : Decimals) (mark : Char) (n : Nat) : List Char :=
  let (digits, e) := significant (d.count + 1) n
  d.scientificDigits mark digits e

def dropZeros (cs : List Char) : List Char := (cs.reverse.dropWhile (· == '0')).reverse

/-- General notation: as many significant digits as the decimals count, scientific only if the
number has more before its point. Trailing zeros go unless they are kept. -/
def general (d : Decimals) (mark : Char) (n : Nat) : List Char :=
  let count := max d.count 1
  let (digits, e) := significant (if d.keep then count else min count (Decimal.digitCount n)) n
  if e < count then
    let part := digits.drop (e + 1)
    let part := if d.keep then part else dropZeros part
    digits.take (e + 1) ++ (if part.isEmpty && !d.keep then [] else ['.']) ++ part
  else
    let part := digits.drop 1
    let part := if d.keep then part else dropZeros part
    scientificDigits ⟨part.length, d.keep⟩ mark (digits.take 1 ++ part) e

end Decimals

end SharedChannel.Logging
