import SharedChannel.Failure

/-!
Writing values. A value can be written unless a numeral in it is too long; `toText` writes it by
itself, as messages and targets take it.
-/

namespace SharedChannel.Value

/-- The text of a value, if it can be written. -/
def toText (v : Value) : Except Failure String :=
  if v.isOverlong then .error .overlongNumeral else .ok v.inFull

/-- The text of a value inside a message. -/
def toQuoted (v : Value) : Except Failure String :=
  if v.isOverlong then .error .overlongNumeral else .ok v.quoted

theorem toText_eq_ok_iff {v : Value} {s : String} :
    v.toText = .ok s ↔ v.isOverlong = false ∧ s = v.inFull := by
  unfold toText
  cases v.isOverlong <;> simp [eq_comm]

theorem toText_eq_error_iff {v : Value} {f : Failure} :
    v.toText = .error f ↔ v.isOverlong = true ∧ f = .overlongNumeral := by
  unfold toText
  cases v.isOverlong <;> simp [eq_comm]

@[simp] theorem toText_text (s : String) : toText (.text s) = .ok s := rfl

@[simp] theorem toQuoted_text (s : String) : toQuoted (.text s) = .ok (Text.quoted s) := rfl

@[simp] theorem toText_float (x : Binary64) : toText (.float x) = .ok x.toText := rfl

@[simp] theorem toText_none : toText .none = .ok "None" := rfl

end SharedChannel.Value
