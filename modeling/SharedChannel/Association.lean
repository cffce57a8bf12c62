/-!
Associations: lists of keys with their values, in the order in which the keys were first put.
`lookup_put` and `lookup_drop` say what is found after a change: it touches its own key alone.
-/

namespace SharedChannel.Association

variable {κ α : Type} [BEq κ]

/-- The value takes the place of the one that the key had, or comes last. -/
def put (k : κ) (a : α) : List (κ × α) → List (κ × α)
  | [] => [(k, a)]
  | b :: rest => if b.1 == k then (k, a) :: rest else b :: put k a rest

def drop (k : κ) (bs : List (κ × α)) : List (κ × α) := bs.filter (·.1 != k)

theorem lookup_put [LawfulBEq κ] (k x : κ) (a : α) (bs : List (κ × α)) :
    (put k a bs).lookup x = if x == k then some a else bs.lookup x := by
  induction bs with
  | nil => by_cases h : x == k <;> simp [put, List.lookup_cons, h]
  | cons b rest ih =>
    obtain ⟨y, v⟩ := b
    by_cases hy : y = k
    · subst hy
      by_cases h : x == y <;> simp [put, List.lookup_cons, h]
    · by_cases h : x = y
      · simp [put, h, hy]
      · have h' : (x == y) = false := by simpa using h
        simp [put, List.lookup_cons, h', hy, ih]

theorem lookup_drop [LawfulBEq κ] (k x : κ) (bs : List (κ × α)) :
    (drop k bs).lookup x = if x == k then none else bs.lookup x := by
  induction bs with
  | nil => simp [drop]
  | cons b rest ih =>
    obtain ⟨y, a⟩ := b
    by_cases hy : y = k
    · subst hy
      by_cases h : x = y
      · simpa [drop, h] using ih
      · have h' : (x == y) = false := by simpa using h
        simpa [drop, h, List.lookup_cons, h'] using ih
    · by_cases h : x = y
      · simp [drop, h, hy]
      · have h' : (x == y) = false := by simpa using h
        simpa [drop, List.lookup_cons, h', hy] using ih

end SharedChannel.Association
