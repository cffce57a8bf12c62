/-!
Sets of code points as tables of boundaries. Membership changes at each boundary, so a
character belongs to the set exactly when an odd number of boundaries lies at or below it.
-/

namespace SharedChannel.Text

/-- A set of code points: the boundaries, in rising order, at which membership changes. -/
structure CodePoints where
  boundaries : List Nat

namespace CodePoints

def contains (s : CodePoints) (c : Char) : Bool :=
  (s.boundaries.takeWhile (· ≤ c.toNat)).length % 2 == 1

end CodePoints

end SharedChannel.Text
