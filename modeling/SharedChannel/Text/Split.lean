/-!
Texts in parts. `split` cuts a text at every separator; joining the parts by the separator gives the
text back, and no part holds it. A text without a separator is one part.
-/

namespace SharedChannel.Text

/-- The parts between separators, at least one. -/
def splitChars (sep : Char) : List Char → List (List Char)
  | [] => [[]]
  | c :: rest =>
    match splitChars sep rest with
    | [] => [[c]]
    | part :: parts => if c == sep then [] :: part :: parts else (c :: part) :: parts

def split (sep : Char) (s : String) : List String := (splitChars sep s.toList).map String.ofList

theorem splitChars_ne_nil (sep : Char) (cs : List Char) : splitChars sep cs ≠ [] := by
  induction cs with
  | nil => simp [splitChars]
  | cons c rest ih =>
    rcases h : splitChars sep rest with _ | ⟨part, parts⟩
    · exact absurd h ih
    · by_cases hc : c = sep <;> simp [splitChars, h, hc]

theorem intercalate_splitChars (sep : Char) (cs : List Char) :
    List.intercalate [sep] (splitChars sep cs) = cs := by
  induction cs with
  | nil => rfl
  | cons c rest ih =>
    rcases h : splitChars sep rest with _ | ⟨part, parts⟩
    · exact absurd h (splitChars_ne_nil sep rest)
    · rw [h] at ih
      by_cases hc : c = sep
      · simpa [splitChars, h, hc, List.intercalate] using ih
      · cases parts <;> simpa [splitChars, h, hc, List.intercalate] using ih

theorem not_mem_of_mem_splitChars (sep : Char) (cs : List Char) :
    ∀ part ∈ splitChars sep cs, sep ∉ part := by
  induction cs with
  | nil => simp [splitChars]
  | cons c rest ih =>
    rcases h : splitChars sep rest with _ | ⟨part, parts⟩
    · exact absurd h (splitChars_ne_nil sep rest)
    · rw [h] at ih
      by_cases hc : c = sep
      · simpa [splitChars, h, hc] using ih
      · simpa [splitChars, h, hc, Ne.symm hc] using ih

end SharedChannel.Text
