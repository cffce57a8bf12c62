import SharedChannel.Failure

/-!
Looking for a part of a value. Texts and bytes are searched for a consecutive part, lists for an
element; other values cannot be searched.
-/

namespace SharedChannel

/-- Whether `needle` occurs as a consecutive part. -/
def occursIn {α : Type} [BEq α] (needle : List α) : List α → Bool
  | [] => needle.isEmpty
  | a :: rest => needle.isPrefixOf (a :: rest) || occursIn needle rest

namespace Value

def containsText (haystack : Value) (needle : String) : Except Failure Bool :=
  match haystack with
  | .text s => .ok (occursIn needle.toList s.toList)
  | .list items => .ok (items.any (equal (.text needle)))
  | .bytes _ => .error (.searchNeedsBytes (.text needle))
  | v => .error (.notSearchable v)

def containsBytes (haystack : Value) (needle : List UInt8) : Except Failure Bool :=
  match haystack with
  | .bytes data => .ok (occursIn needle data)
  | .list items => .ok (items.any (equal (.bytes needle)))
  | .text _ => .error (.searchNeedsText (.bytes needle))
  | v => .error (.notSearchable v)

end Value

end SharedChannel
