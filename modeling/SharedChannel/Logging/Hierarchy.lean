/-!
The hierarchy of loggers. The names above a name are its beginnings before a dot; a dot right before
the one found last is passed over, and so is one that the name begins with. A logger hands its
records on to the nearest of these names that is in use.
-/

namespace SharedChannel.Logging

/-- The names above a name, nearest first; all of them are written backwards. -/
def above : List Char → List (List Char)
  | '.' :: c :: rest => (c :: rest) :: above rest
  | _ :: rest => above rest
  | [] => []

/-- Whether records of `name` come to `top` when the loggers in `known` are in use. No name has as
many names above it as characters. -/
def leadsTo (top : List Char) (known : List (List Char)) : Nat → List Char → Bool
  | 0, name => name == top
  | fuel + 1, name =>
    name == top ||
      match (above name).find? fun n => n == top || known.contains n with
      | some next => leadsTo top known fuel next
      | none => false

/-- Whether records of a logger come to the logger `top`. -/
def isBelow (top : String) (known : List String) (logger : String) : Bool :=
  let backwards (s : String) := s.toList.reverse
  leadsTo (backwards top) (known.map backwards) logger.length (backwards logger)

end SharedChannel.Logging
