/-!
Reading UTF-8. `decodeUtf8` gives the characters of well-formed bytes; otherwise it tells which
bytes it could not read, where they stand, and why.
-/

namespace SharedChannel.Text

/-- Why bytes are not UTF-8. -/
inductive Utf8Fault where
  | badStart
  | badContinuation
  | truncated
deriving DecidableEq, Repr

/-- The place of a fault: the first unreadable byte, its position, and how many bytes are given
up together. -/
structure Utf8Failure where
  fault : Utf8Fault
  byte : UInt8
  position : Nat
  length : Nat
deriving DecidableEq, Repr

def isContinuation (b : UInt8) : Bool := b.toNat / 64 == 2

/-- How a multi-byte character starts: the number of bytes that follow, the payload of the first,
and the range in which the second must lie. -/
structure Utf8Lead where
  follow : Nat
  payload : Nat
  low : Nat
  high : Nat

/-- The shortest forms only, no surrogates, nothing past the last plane. -/
def utf8Lead? (b : UInt8) : Option Utf8Lead :=
  let n := b.toNat
  if n < 0xc2 then none
  else if n < 0xe0 then some ⟨1, n - 0xc0, 0x80, 0xbf⟩
  else if n < 0xf0 then
    some ⟨2, n - 0xe0, if n == 0xe0 then 0xa0 else 0x80, if n == 0xed then 0x9f else 0xbf⟩
  else if n < 0xf5 then
    some ⟨3, n - 0xf0, if n == 0xf0 then 0x90 else 0x80, if n == 0xf4 then 0x8f else 0xbf⟩
  else none

/-- The outcome of reading the bytes after a lead: a code point, or the fault and the number of
bytes read well before it. -/
def utf8Tail : Nat → Nat → Nat → List UInt8 → Except (Utf8Fault × Nat) Nat
  | 0, _, point, _ => .ok point
  | _ + 1, done, _, [] => .error (.truncated, done)
  | more + 1, done, point, b :: rest =>
    if isContinuation b then utf8Tail more (done + 1) (64 * point + b.toNat % 64) rest
    else .error (.badContinuation, done)

def utf8Char (lead : Utf8Lead) : List UInt8 → Except (Utf8Fault × Nat) Nat
  | [] => .error (.truncated, 1)
  | b :: rest =>
    if lead.low ≤ b.toNat && b.toNat ≤ lead.high then
      utf8Tail (lead.follow - 1) 2 (64 * lead.payload + b.toNat % 64) rest
    else .error (.badContinuation, 1)

/-- Reads from `position` on; `skip` bytes belong to the character read last. -/
def decodeUtf8From (position : Nat) : Nat → List UInt8 → Except Utf8Failure (List Char)
  | _, [] => .ok []
  | skip + 1, _ :: rest => decodeUtf8From (position + 1) skip rest
  | 0, b :: rest =>
    if b.toNat < 0x80 then
      (Char.ofNat b.toNat :: ·) <$> decodeUtf8From (position + 1) 0 rest
    else
      match utf8Lead? b with
      | none => .error ⟨.badStart, b, position, 1⟩
      | some lead =>
        match utf8Char lead rest with
        | .error (fault, length) => .error ⟨fault, b, position, length⟩
        | .ok point => (Char.ofNat point :: ·) <$> decodeUtf8From (position + 1) lead.follow rest

def decodeUtf8 (bytes : List UInt8) : Except Utf8Failure (List Char) := decodeUtf8From 0 0 bytes

end SharedChannel.Text
