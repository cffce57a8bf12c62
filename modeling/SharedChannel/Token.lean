import SharedChannel.Value.Digest
import SharedChannel.Value.Writing

/-!
Tokens and token sources. A token is a bearer credential, and `authorization` is the header value
that carries it, if it can be written. A source answers each ask with a token or a failure, and may
answer the first ask otherwise than the second; `header` is what becomes of an ask.
-/

namespace SharedChannel

structure Token where
  accessToken : Value
  scheme : Value := .text "Bearer"
  expiry : Option String := none
deriving DecidableEq, Repr, Inhabited

namespace Token

def defaultScheme : String := "Bearer"

/-- The scheme, the default one if it is empty, and the access token. -/
def authorization (t : Token) : Except Failure String := do
  let scheme ← if t.scheme.truthy then t.scheme.toText else pure defaultScheme
  return scheme ++ " " ++ (← t.accessToken.toText)

/-- The text of a token without expiry. -/
def toText (t : Token) : Except Failure String := do
  return "Token(access_token=" ++ (← t.accessToken.toQuoted) ++ ", token_type=" ++
    (← t.scheme.toQuoted) ++ ", expiry=None)"

def equal (a b : Token) : Bool :=
  a.accessToken.equal b.accessToken && a.scheme.equal b.scheme && a.expiry == b.expiry

/-- Whether both tokens have one digest; a token with a list in it has none. -/
def digestsAgree (a b : Token) : Except Failure Bool := do
  let access ← a.accessToken.digest
  let scheme ← a.scheme.digest
  let access' ← b.accessToken.digest
  let scheme' ← b.scheme.digest
  return access.agree access' && scheme.agree scheme' && a.expiry == b.expiry

/-- Tokens are immutable: no attribute takes an assignment. -/
def assign (_ : Token) (name : String) : Except Failure Token := .error (.frozenField name)

end Token

/-- Tells token sources apart. -/
inductive SourceName where
  /-- The source of a personal access token. -/
  | personal
  | given (index : Nat)
deriving DecidableEq, Repr

/-- A token source: `answer n` is what the ask gets before which `n` asks were made. -/
structure TokenSource where
  name : SourceName
  answer : Nat → Except Failure Token

namespace TokenSource

/-- The header value that an ask leads to before which `n` asks were made, or why there is none. -/
def header (s : TokenSource) (n : Nat) : Except Failure String := do
  (← s.answer n).authorization

/-- Always the same token. -/
def fixed (name : SourceName) (token : Token) : TokenSource := ⟨name, fun _ => .ok token⟩

/-- The stem followed by 1, 2, … -/
def rotating (name : SourceName) (stem : String) : TokenSource :=
  ⟨name, fun n => .ok { accessToken := .text (stem ++ toString (n + 1)) }⟩

/-- The given answers in order, the last one over and over. -/
def scripted (name : SourceName) (first : Except Failure Token)
    (rest : List (Except Failure Token)) : TokenSource :=
  ⟨name, fun n => ((first :: rest)[min n rest.length]?).getD first⟩

end TokenSource

end SharedChannel
