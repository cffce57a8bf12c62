import SharedChannel.Failure

/-!
Digests of values, by which a set sorts its members. Equal values have equal digests: a number is
reduced modulo a prime, whatever its kind, and texts and bytes count by their octets. A text of wide
characters and one of narrow characters can have the same octets.
-/

namespace SharedChannel

/-- What a digest depends on. -/
inductive Digest where
  | residue (r : Int)
  | octets (data : List UInt8)
  | nothing
  | unique
deriving DecidableEq

namespace Digest

/-- The prime modulus `2 ^ 61 - 1`. -/
def modulus : Nat := Nat.pow 2 61 - 1

/-- The residue of `± n`; minus one is set aside and counts as minus two. -/
def ofMagnitude (negative : Bool) (n : Nat) : Digest :=
  let r : Int := (n % modulus : Nat)
  let r := if negative then -r else r
  .residue (if r == -1 then -2 else r)

/-- A power of two depends on its exponent modulo 61 alone. -/
def ofBinary : Binary64 → Digest
  | .nan => .unique
  | .infinite negative => .residue (if negative then -314159 else 314159)
  | .finite negative m e => ofMagnitude negative (m % modulus * Nat.pow 2 (e % 61).toNat)

/-- The lowest `width` octets of `n`, lowest first. -/
def lowOctets : Nat → Nat → List UInt8
  | 0, _ => []
  | width + 1, n => n.toUInt8 :: lowOctets width (n / 256)

/-- How many octets each character of a text takes: one, two or four, as few as will do for all. -/
def octetWidth (cs : List Char) : Nat :=
  if cs.all (·.toNat < 0x100) then 1 else if cs.all (·.toNat < 0x10000) then 2 else 4

/-- A text counts as the octets of its characters, and an empty one as zero. -/
def ofText (s : String) : Digest :=
  let cs := s.toList
  let width := octetWidth cs
  if cs.isEmpty then .residue 0 else .octets (cs.flatMap fun c => lowOctets width c.toNat)

/-- Whether two values built apart have one digest. -/
def agree (a b : Digest) : Bool := a == b && a != .unique

end Digest

/-- The digest of a value; a list has none. -/
def Value.digest : Value → Except Failure Digest
  | .none => .ok .nothing
  | .bool b => .ok (.residue (if b then 1 else 0))
  | .int n => .ok (.ofMagnitude (n < 0) n.natAbs)
  | .float x => .ok (.ofBinary x)
  | .text s => .ok (.ofText s)
  | .bytes data => .ok (if data.isEmpty then .residue 0 else .octets data)
  | .list items => .error (.unhashable (.list items))

end SharedChannel
