import SharedChannel.Number.Shortest
import SharedChannel.Text.Digit
import SharedChannel.Text.Quoted

/-!
Dynamic values: what callers may pass for a domain, a flag, a timeout or a channel argument.
`inFull` is a value as a text by itself and `quoted` inside a message, `isOverlong` tells which
values have a numeral in it that is too long to be written, `truthy` reads a value as a flag and
`equal` compares two of them, numbers of all kinds by their value.
-/

namespace SharedChannel

inductive Value where
  | none
  | bool (b : Bool)
  | int (n : Int)
  | float (x : Binary64)
  | text (s : String)
  | bytes (data : List UInt8)
  | list (items : List Value)
deriving Repr, Inhabited

namespace Value

mutual

/-- Whether two values are written alike; it decides equality. -/
def same : Value → Value → Bool
  | .none, .none => true
  | .bool a, .bool b => a == b
  | .int a, .int b => a == b
  | .float a, .float b => a == b
  | .text a, .text b => a == b
  | .bytes a, .bytes b => a == b
  | .list as, .list bs => sameItems as bs
  | _, _ => false

def sameItems : List Value → List Value → Bool
  | [], [] => true
  | a :: as, b :: bs => same a b && sameItems as bs
  | _, _ => false

end

mutual

theorem same_iff (a b : Value) : same a b = true ↔ a = b := by
  cases a <;> cases b <;> simp [same]
  exact sameItems_iff _ _

theorem sameItems_iff (as bs : List Value) : sameItems as bs = true ↔ as = bs := by
  cases as <;> cases bs <;> simp [sameItems]
  rw [same_iff, sameItems_iff]

end

instance : DecidableEq Value := fun a b => decidable_of_iff _ (same_iff a b)

/-- The kind of a value, as messages name it. -/
def kindName : Value → String
  | .none => "NoneType"
  | .bool _ => "bool"
  | .int _ => "int"
  | .float _ => "float"
  | .text _ => "str"
  | .bytes _ => "bytes"
  | .list _ => "list"

mutual

/-- The value inside a message: texts and bytes in quotes. -/
def quoted : Value → String
  | .none => "None"
  | .bool b => if b then "True" else "False"
  | .int n => toString n
  | .float x => x.toText
  | .text s => Text.quoted s
  | .bytes data => Text.quotedBytes data
  | .list items => "[" ++ ", ".intercalate (quotedList items) ++ "]"

def quotedList : List Value → List String
  | [] => []
  | v :: rest => quoted v :: quotedList rest

end

/-- The value by itself: a text stands for itself. -/
def inFull : Value → String
  | .text s => s
  | v => v.quoted

mutual

/-- Whether the value is an integer of more digits than are written, or has one in it. -/
def isOverlong : Value → Bool
  | .int n => Text.numeralBound ≤ n.natAbs
  | .list items => anyOverlong items
  | _ => false

def anyOverlong : List Value → Bool
  | [] => false
  | v :: rest => isOverlong v || anyOverlong rest

end

def truthy : Value → Bool
  | .none => false
  | .bool b => b
  | .int n => n != 0
  | .float x => !x.equal .zero
  | .text s => s != ""
  | .bytes data => !data.isEmpty
  | .list items => !items.isEmpty

/-- A number of any kind: an exact one, or a floating-point one outside the rationals. -/
inductive Numeric where
  | exact (q : Rat)
  | infinite (negative : Bool)
  | nan
deriving DecidableEq

def numeric? : Value → Option Numeric
  | .bool b => some (.exact (if b then 1 else 0))
  | .int n => some (.exact n)
  | .float .nan => some .nan
  | .float (.infinite s) => some (.infinite s)
  | .float x => x.value?.map .exact
  | _ => Option.none

mutual

/-- Equality as callers see it: numbers by value, everything else within its kind. -/
def equal : Value → Value → Bool
  | .none, .none => true
  | .text a, .text b => a == b
  | .bytes a, .bytes b => a == b
  | .list a, .list b => equalList a b
  | a, b =>
    match a.numeric?, b.numeric? with
    | some .nan, _ => false
    | some x, some y => x == y
    | _, _ => false

def equalList : List Value → List Value → Bool
  | [], [] => true
  | a :: as, b :: bs => equal a b && equalList as bs
  | _, _ => false

end

/-- Equality of values with a common history: one that was merely passed on equals itself,
whatever it is. -/
def sameOrEqual (a b : Value) : Bool := decide (a = b) || a.equal b

end Value

end SharedChannel
