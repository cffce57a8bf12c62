import SharedChannel.Value.Search
import SharedChannel.World

/-!
Transport security: plaintext, or TLS with given or default root certificates. `resolve` decides
which one a connection gets, and refuses TLS without a domain or with a bundle that holds no
certificate.
-/

namespace SharedChannel

inductive Security where
  | plaintext
  /-- No roots stand for the default ones. -/
  | tls (roots : Value)
deriving DecidableEq, Repr, Inhabited

namespace Security

def isSecure : Security → Bool
  | plaintext => false
  | tls _ => true

/-- The line that starts a certificate. -/
def certificateMark : List UInt8 :=
  "-----BEGIN CERTIFICATE-----".toList.map fun c => c.toNat.toUInt8

def resolve (domain tls roots : Value) : Action Security := do
  if !tls.truthy then return .plaintext
  if !domain.truthy then throw .missingServerDomain
  if roots != .none then
    if !(← Action.ofExcept (roots.containsBytes certificateMark)) then throw .noCertificate
  Action.emit (.tlsCredentials roots)
  Action.raise (← read).tlsFailure
  return .tls roots

/-- Transport security is immutable: no attribute takes an assignment. -/
def assign (_ : Security) (name : String) : Except Failure Security := .error (.frozenField name)

end Security

end SharedChannel
