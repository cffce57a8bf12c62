import SharedChannel.Number.Binary64

/-!
The shortest decimal text of a floating-point number. `shortest` finds the fewest digits that
read back as the number, and of those the nearest; `toText` writes them positionally for decimal
exponents from -4 to 15 and otherwise with a signed exponent of two digits at least.
-/

namespace SharedChannel

/-- A positive decimal number: `digits · 10 ^ exponent`. -/
structure Decimal where
  digits : Nat
  exponent : Int
deriving DecidableEq, Repr

namespace Decimal

def tenPow (e : Int) : Rat :=
  if 0 ≤ e then Nat.pow 10 e.toNat else 1 / (Nat.pow 10 (-e).toNat : Rat)

def digitCount (n : Nat) : Nat := (Nat.toDigits 10 n).length

/-- The exponent `e` with `10 ^ e ≤ n / d < 10 ^ (e + 1)`, for positive `n` and `d`. -/
def decimalExponent (n d : Nat) : Int :=
  if d ≤ n then digitCount (n / d) - 1
  else
    let k := digitCount (d / n)
    if d ≤ n * Nat.pow 10 (k - 1) then 1 - (k : Int) else -(k : Int)

/-- The same number with no zero at the end of its digits. -/
def trim (digits : Nat) (exponent : Int) : Nat → Decimal
  | 0 => ⟨digits, exponent⟩
  | fuel + 1 =>
    if digits % 10 == 0 then trim (digits / 10) (exponent + 1) fuel else ⟨digits, exponent⟩

end Decimal

namespace Binary64

open Decimal

/-- The numbers that round to `m · 2 ^ e`: the ends of the interval, and whether they belong to
it. The gap below a power of two is half the gap above. -/
structure Neighbourhood where
  low : Rat
  high : Rat
  closed : Bool

def neighbourhood (m : Nat) (e : Int) : Neighbourhood :=
  let below := if m == mantissaLimit / 2 && minExponent < e then 1 else 2
  { low := (4 * m - below : Nat) * twoPow (e - 2)
    high := (4 * m + 2 : Nat) * twoPow (e - 2)
    closed := m % 2 == 0 }

def Neighbourhood.has (i : Neighbourhood) (q : Rat) : Bool :=
  if i.closed then i.low ≤ q && q ≤ i.high else i.low < q && q < i.high

/-- The nearer of the two multiples of `10 ^ e` around `q` that lie in the interval; of two as
near the even one. -/
def onGrid (i : Neighbourhood) (q : Rat) (e : Int) : Option Decimal :=
  let unit := tenPow e
  let below := (q / unit).floor.toNat
  let down := q - below * unit
  let up := (below + 1 : Nat) * unit - q
  match i.has (below * unit), i.has ((below + 1 : Nat) * unit) with
  | true, true =>
    if down < up || (down == up && below % 2 == 0) then some ⟨below, e⟩ else some ⟨below + 1, e⟩
  | true, false => some ⟨below, e⟩
  | false, true => some ⟨below + 1, e⟩
  | false, false => none

/-- The fewest digits that read back as `m · 2 ^ e`. Seventeen always do. -/
def shortest (m : Nat) (e : Int) : Decimal :=
  let q := m * twoPow e
  let top := decimalExponent q.num.natAbs q.den
  let found := (List.range 17).findSome? fun (k : Nat) => onGrid (neighbourhood m e) q (top - k)
  match found with
  | some d => trim d.digits d.exponent 17
  | none => ⟨0, 0⟩

/-- Digits and the exponent of the first of them, written positionally. -/
def positional (digits : List Char) (point : Int) : List Char :=
  if point ≤ 0 then '0' :: '.' :: List.replicate (-point).toNat '0' ++ digits
  else
    let whole := digits.take point.toNat
    let part := digits.drop point.toNat
    whole ++ List.replicate (point.toNat - whole.length) '0' ++ '.' ::
      (if part.isEmpty then ['0'] else part)

def signedExponent (e : Int) : List Char :=
  let digits := Nat.toDigits 10 e.natAbs
  (if e < 0 then '-' else '+') :: List.replicate (2 - digits.length) '0' ++ digits

def scientific (digits : List Char) (e : Int) : List Char :=
  digits.take 1 ++ (if digits.length ≤ 1 then [] else '.' :: digits.drop 1) ++
    'e' :: signedExponent e

def magnitudeText (m : Nat) (e : Int) : List Char :=
  if m == 0 then ['0', '.', '0']
  else
    let d := shortest m e
    let digits := Nat.toDigits 10 d.digits
    let first := d.exponent + digits.length - 1
    if -4 ≤ first && first < 16 then positional digits (first + 1) else scientific digits first

/-- The number in decimal: the shortest digits that read back. -/
def toText : Binary64 → String
  | .nan => "nan"
  | .infinite negative => if negative then "-inf" else "inf"
  | .finite negative m e =>
    String.ofList ((if negative then ['-'] else []) ++ magnitudeText m e)

end Binary64

end SharedChannel
