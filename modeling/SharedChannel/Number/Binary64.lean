/-!
Binary floating-point numbers of 64 bits, with arithmetic in exact rationals. A finite number is
`± mantissa · 2 ^ exponent`; every operation takes the exact result and rounds it once, to the
nearest number and on a tie to the even mantissa. So an operation whose exact result is a number
of this kind gives that number.
-/

namespace SharedChannel

inductive Binary64 where
  | nan
  | infinite (negative : Bool)
  | finite (negative : Bool) (mantissa : Nat) (exponent : Int)
deriving DecidableEq, Repr

namespace Binary64

def minExponent : Int := -1074
def maxExponent : Int := 971
def mantissaLimit : Nat := Nat.pow 2 53

def zero : Binary64 := .finite false 0 minExponent

/-- `2 ^ e` for any integer `e`. -/
def twoPow (e : Int) : Rat :=
  if 0 ≤ e then Nat.pow 2 e.toNat else 1 / (Nat.pow 2 (-e).toNat : Rat)

/-- The rational number meant by a finite one. -/
def value? : Binary64 → Option Rat
  | .finite negative mantissa exponent =>
    some ((if negative then -1 else 1) * mantissa * twoPow exponent)
  | _ => none

/-- The quotient rounded to the nearest integer, a tie to the even one. -/
def roundQuotient (n d : Nat) : Nat :=
  let q := n / d
  let r := n % d
  if 2 * r < d || (2 * r == d && q % 2 == 0) then q else q + 1

/-- The exponent `e` with `2 ^ e ≤ n / d < 2 ^ (e + 1)`, for positive `n` and `d`. -/
def binaryExponent (n d : Nat) : Int :=
  let k : Int := n.log2 - d.log2
  if d * Nat.pow 2 k.toNat ≤ n * Nat.pow 2 (-k).toNat then k else k - 1

/-- The number nearest to `± n / d`. -/
def roundFraction (negative : Bool) (n d : Nat) : Binary64 :=
  if n == 0 then .finite negative 0 minExponent
  else
    let e := max minExponent (binaryExponent n d - 52)
    let m := roundQuotient (n * Nat.pow 2 (-e).toNat) (d * Nat.pow 2 e.toNat)
    let (m, e) := if m == mantissaLimit then (m / 2, e + 1) else (m, e)
    if maxExponent < e then .infinite negative else .finite negative m e

def round (q : Rat) : Binary64 := roundFraction (q.num < 0) q.num.natAbs q.den

def ofInt (i : Int) : Binary64 := roundFraction (i < 0) i.natAbs 1

def neg : Binary64 → Binary64
  | .nan => .nan
  | .infinite s => .infinite (!s)
  | .finite s m e => .finite (!s) m e

def isNegative : Binary64 → Bool
  | .nan => false
  | .infinite s => s
  | .finite s _ _ => s

/-- The rounded sum. An exact sum of zero is negative only if both terms are. -/
def add (a b : Binary64) : Binary64 :=
  match a.value?, b.value? with
  | some x, some y =>
    if x + y = 0 then .finite (a.isNegative && b.isNegative) 0 minExponent else round (x + y)
  | _, _ =>
    match a, b with
    | .infinite s, .infinite t => if s = t then .infinite s else .nan
    | .infinite s, .finite _ _ _ => .infinite s
    | .finite _ _ _, .infinite t => .infinite t
    | _, _ => .nan

def sub (a b : Binary64) : Binary64 := add a b.neg

/-- Strict order; nothing lies below or above `nan`. -/
def less (a b : Binary64) : Bool :=
  match a, b with
  | .nan, _ | _, .nan => false
  | .infinite s, .infinite t => s && !t
  | .infinite s, .finite _ _ _ => s
  | .finite _ _ _, .infinite t => !t
  | a, b =>
    match a.value?, b.value? with
    | some x, some y => x < y
    | _, _ => false

/-- Numerical equality: zeros of both signs are equal, `nan` equals nothing. -/
def equal (a b : Binary64) : Bool :=
  match a, b with
  | .infinite s, .infinite t => s == t
  | a, b =>
    match a.value?, b.value? with
    | some x, some y => x == y
    | _, _ => false

def atLeast (a b : Binary64) : Bool := less b a || equal a b

/-- `a`, if it is above zero, else zero without a sign. -/
def positivePart (a : Binary64) : Binary64 := if less zero a then a else zero

instance : Inhabited Binary64 := ⟨zero⟩

end Binary64

end SharedChannel
