import SharedChannel.World

/-!
Credential providers. A provider adds one authorization entry to each call, made of the current
token of its source, and nothing without a source. `authorize` does so for call details, and
`plugin` answers a secure channel that asks for the entries by a callback.
-/

namespace SharedChannel

/-- Asks a token source for its current token. -/
def TokenSource.ask (s : TokenSource) : Action Token := do
  let asked := (← get).asks s.name
  Action.emit (.ask s.name)
  Action.ofExcept (s.answer asked)

structure Provider where
  name : ProviderName
  tls : Value
  source : Option TokenSource

/-- What a secure channel is told: the entries, or why there are none. -/
inductive PluginAnswer where
  | granted (entries : Metadata)
  | refused (failure : Failure)
deriving DecidableEq, Repr

namespace Provider

def authorizationKey : String := "authorization"

def logger : String := "zitadel_client.credentials"

/-- Whether the entries may travel on an encrypted channel only. -/
def requiresTls (p : Provider) : Bool := p.tls.truthy

/-- The entries for one call. -/
def entries (p : Provider) : Action Metadata :=
  match p.source with
  | none => pure []
  | some s => do
    let token ← s.ask
    let value ← Action.ofExcept token.authorization
    return [⟨authorizationKey, value, some p.name⟩]

/-- The details of a call with the entries of a provider. -/
def authorize (p : Option Provider) (d : CallDetails) : Action CallDetails :=
  match p with
  | some p => do return d.extend (← p.entries)
  | none => throw .missingProvider

/-- Hands the entries, or an ordinary failure to get them, to the callback. A failure is recorded
first, so one without a text does not reach the callback, and neither do interrupts. -/
def plugin {α : Type} (p : Provider) (method : Option String)
    (callback : PluginAnswer → Action α) : Action α := do
  match ← Action.attempt p.entries with
  | .ok entries => callback (.granted entries)
  | .error f =>
    if f.isOrdinary then
      let text ← Action.ofExcept f.message
      Action.record .debug logger
        ("Failed to obtain request metadata for " ++ method.getD "None" ++ ": " ++ text)
      callback (.refused f)
    else throw f

end Provider

end SharedChannel
