import SharedChannel.Config
import SharedChannel.Text.Digit
import SharedChannel.Value.Digest
import SharedChannel.Value.Search
import SharedChannel.Value.Writing

/-!
Endpoints: the domain and external port of an instance, and whether it is reached by TLS. `make`
accepts a bare host name with a port from 1 to 65535 in digits of any script; `new` starts from the
default port and makes changes in order. `host` is the dial target, `origin` the address that
others see.
-/

namespace SharedChannel

structure Endpoint where
  domain : Value
  port : String
  tls : Value
deriving DecidableEq, Repr, Inhabited

namespace Endpoint

def defaultTlsPort : String := "443"
def defaultPlainPort : String := "80"

def checkDomain (domain : Value) : Except Failure Unit := do
  if !domain.truthy then throw .emptyDomain
  if ← domain.containsText "://" then throw (.notBareHostname (← domain.toQuoted))
  if ← domain.containsText "/" then throw (.notBareHostname (← domain.toQuoted))

/-- The number that a text of digits denotes. A digit without a place value ends the numeral. -/
def portNumber (port : String) : Except Failure Nat :=
  let digits := port.toList.takeWhile Text.isDecimal
  if Text.numeralLimit < digits.length then .error (.tooManyDigits digits.length)
  else if digits.length < port.toList.length then .error (.notANumeral port)
  else .ok (Text.numeralValue digits)

def checkPort (port : String) : Except Failure Unit := do
  if port.isEmpty || !port.toList.all Text.isDigit then throw (.invalidPort port)
  let n ← portNumber port
  if !(0 < n && n < 65536) then throw (.invalidPort port)

/-- An endpoint of a checked domain and port. The port is written out first, and then the domain is
checked before the port. -/
def make (domain port tls : Value) : Except Failure Endpoint := do
  let text ← port.toText
  checkDomain domain
  checkPort text
  return ⟨domain, text, tls⟩

/-- A change to an endpoint. -/
inductive Change where
  /-- Plaintext on the given port. -/
  | insecure (port : Value)
  /-- Another port, TLS as before. -/
  | port (port : Value)
deriving DecidableEq, Repr

def apply (e : Endpoint) : Change → Except Failure Endpoint
  | .insecure p => make e.domain p (.bool false)
  | .port p => make e.domain p e.tls

def new (domain : Value) (changes : List Change) : Except Failure Endpoint := do
  changes.foldlM apply (← make domain (.text defaultTlsPort) (.bool true))

def ofConfig (c : Config) : Except Failure Endpoint :=
  if !c.domain.truthy then .error .domainNotSet
  else if c.insecure.truthy then new c.domain [.insecure c.port]
  else new c.domain [.port c.port]

/-- The dial target. Domains are taken to be texts, or short enough to be written. -/
def host (e : Endpoint) : String := e.domain.inFull ++ ":" ++ e.port

def isTls (e : Endpoint) : Bool := e.tls.truthy

def scheme (e : Endpoint) : String := if e.isTls then "https" else "http"

def defaultPort (e : Endpoint) : String := if e.isTls then defaultTlsPort else defaultPlainPort

/-- Scheme and domain, and the port unless it is written like the default of the scheme. -/
def origin (e : Endpoint) : String :=
  if e.port = e.defaultPort then e.scheme ++ "://" ++ e.domain.inFull
  else e.scheme ++ "://" ++ e.domain.inFull ++ ":" ++ e.port

def toText (e : Endpoint) : Except Failure String := do
  return "Endpoint(domain=" ++ (← e.domain.toQuoted) ++ ", port=" ++ Text.quoted e.port ++
    ", tls=" ++ (← e.tls.toQuoted) ++ ")"

def equal (a b : Endpoint) : Bool :=
  a.domain.equal b.domain && a.port == b.port && a.tls.equal b.tls

/-- Equality of an endpoint with one made from it. -/
def sameOrEqual (a b : Endpoint) : Bool :=
  a.domain.sameOrEqual b.domain && a.port == b.port && a.tls.sameOrEqual b.tls

/-- Whether both endpoints have one digest; an endpoint with a list in it has none. -/
def digestsAgree (a b : Endpoint) : Except Failure Bool := do
  let domain ← a.domain.digest
  let tls ← a.tls.digest
  let domain' ← b.domain.digest
  let tls' ← b.tls.digest
  return domain.agree domain' && (Digest.ofText a.port).agree (.ofText b.port) && tls.agree tls'

/-- How many members the set of two endpoints has. -/
def setSize (a b : Endpoint) (digestsAgree : Bool) : Nat :=
  if digestsAgree && equal a b then 1 else 2

/-- Endpoints are immutable: no attribute takes an assignment. -/
def assign (_ : Endpoint) (name : String) : Except Failure Endpoint := .error (.frozenField name)

end Endpoint

end SharedChannel
