import SharedChannel.Dotenv.Binding
import SharedChannel.Environment

/-!
Interpolation of values, as in dotenv 1.2.4. A dollar sign with a name in braces stands for a
variable, with a default behind a colon and a hyphen. Names are looked up in the environment first
and then among the earlier bindings of the file.
-/

namespace SharedChannel.Dotenv

inductive Piece where
  | char (c : Char)
  | reference (name default : String)
deriving DecidableEq, Repr

/-- A variable after its dollar sign and brace: name, default, and the text behind. -/
def reference? (cs : Chars) : Option (Chars × Chars × Chars) :=
  let name := cs.takeWhile fun c => c != '}' && c != ':'
  match cs.dropWhile fun c => c != '}' && c != ':' with
  | '}' :: after => some (name, [], after)
  | ':' :: '-' :: rest =>
    match rest.dropWhile (· != '}') with
    | _ :: after => some (name, rest.takeWhile (· != '}'), after)
    | [] => none
  | _ => none

/-- The pieces of a value; `skip` characters belong to the piece read last. -/
def piecesFrom : Nat → Chars → List Piece
  | _, [] => []
  | skip + 1, _ :: rest => piecesFrom skip rest
  | 0, c :: rest =>
    match c, rest with
    | '$', '{' :: inner =>
      match reference? inner with
      | some (name, default, after) =>
        .reference (String.ofList name) (String.ofList default) ::
          piecesFrom (rest.length - after.length) rest
      | none => .char c :: piecesFrom 0 rest
    | _, _ => .char c :: piecesFrom 0 rest

def pieces (s : String) : List Piece := piecesFrom 0 s.toList

/-- Names with their values, where a name may have none. -/
abbrev Values := List (String × Option String)

/-- The value of a variable: that of the environment, else that of the file, where a name without
a value counts as empty, else the default. -/
def lookup (e : Environment) (earlier : Values) (name default : String) : String :=
  match e.get? name with
  | some v => v
  | none =>
    match earlier.lookup name with
    | some v => v.getD ""
    | none => default

def Piece.resolve (e : Environment) (earlier : Values) : Piece → String
  | .char c => c.toString
  | .reference name default => lookup e earlier name default

def interpolate (e : Environment) (earlier : Values) (s : String) : String :=
  String.join ((pieces s).map (·.resolve e earlier))

/-- Puts a binding, interpolated, behind the earlier ones or in the place of one of the same
name. -/
def put (e : Environment) (earlier : Values) (b : Binding) : Values :=
  Association.put b.name (b.value.map (interpolate e earlier)) earlier

/-- The values of a file, each interpolated with those before it. -/
def values (e : Environment) (bs : List Binding) : Values := bs.foldl (put e) []

end SharedChannel.Dotenv
