import SharedChannel.Failure

/-!
Attributes that every object has. An object takes any value for most attributes; these take none of
the values that callers may pass.
-/

namespace SharedChannel.Attribute

/-- Why an object of the kind `owner` refuses a value for an attribute, if it does. -/
def refusal? (owner name : String) (v : Value) : Option Failure :=
  match name with
  | "__class__" => some (.notAClass v)
  | "__dict__" => some (.notADictionary v)
  | "__weakref__" => some (.notWritable owner name)
  | _ => none

end SharedChannel.Attribute
