import SharedChannel.Value

/-!
Remote calls: the four kinds, and the details that travel with a call and that interceptors may
extend. Metadata entries that a credential provider adds carry its name.
-/

namespace SharedChannel

inductive CallKind where
  | unaryUnary
  | unaryStream
  | streamUnary
  | streamStream
deriving DecidableEq, Repr

namespace CallKind

def all : List CallKind := [unaryUnary, unaryStream, streamUnary, streamStream]

/-- Whether the request is a stream. -/
def sendsStream : CallKind → Bool
  | streamUnary | streamStream => true
  | unaryUnary | unaryStream => false

/-- Whether the answer is a stream. -/
def answersStream : CallKind → Bool
  | unaryStream | streamStream => true
  | unaryUnary | streamUnary => false

/-- A request as a call of this kind takes it: a stream takes texts and bytes element by element. -/
def request (kind : CallKind) (v : Value) : Value :=
  match v with
  | .text s =>
    if kind.sendsStream then .list (s.toList.map fun c => .text (String.singleton c)) else v
  | .bytes data => if kind.sendsStream then .list (data.map fun b => .int b.toNat) else v
  | v => v

end CallKind

inductive Compression where
  | none
  | deflate
  | gzip
deriving DecidableEq, Repr

/-- Tells credential providers apart. -/
inductive ProviderName where
  /-- The provider that a client makes for itself. -/
  | own
  | labelled (label : String)
deriving DecidableEq, Repr

def ProviderName.label : ProviderName → String
  | own => "client"
  | labelled label => label

/-- A metadata entry, and the provider it comes from, if from any. -/
structure Entry where
  key : String
  value : String
  issuer : Option ProviderName := none
deriving DecidableEq, Repr

abbrev Metadata := List Entry

/-- What a caller gives as metadata: a key and a value, from no provider. -/
abbrev Header := String × String

def Entry.ofHeader (h : Header) : Entry := ⟨h.1, h.2, none⟩

/-- The newer details of a call, which callers may leave out as a whole. -/
structure CallExtras where
  waitForReady : Value := .none
  compression : Option Compression := none
deriving DecidableEq, Repr

structure CallDetails where
  method : String
  timeout : Value := .none
  metadata : Option Metadata := none
  extras : Option CallExtras := some {}
deriving DecidableEq, Repr

namespace CallDetails

/-- The details with further metadata behind the old. Without any they stay as they are; with some,
details left out are filled in. -/
def extend (d : CallDetails) (more : Metadata) : CallDetails :=
  if more.isEmpty then d
  else
    { d with
      metadata := some (d.metadata.getD [] ++ more)
      extras := some (d.extras.getD {}) }

/-- The last part of the method's path. -/
def methodName (d : CallDetails) : String :=
  String.ofList (d.method.toList.reverse.takeWhile (· != '/')).reverse

end CallDetails

/-- A call as the caller makes it. -/
structure Call where
  kind : CallKind
  method : String
  request : Value
  timeout : Value := .none
  metadata : Option (List Header) := none
  extras : CallExtras := {}
deriving DecidableEq, Repr

def Call.details (c : Call) : CallDetails where
  method := c.method
  timeout := c.timeout
  metadata := c.metadata.map (·.map Entry.ofHeader)
  extras := some c.extras

inductive Reply where
  | single (text : String)
  | stream (texts : List String)
deriving DecidableEq, Repr

end SharedChannel
