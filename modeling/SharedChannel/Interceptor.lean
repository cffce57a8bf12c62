import SharedChannel.Provider

/-!
Call interceptors. An interceptor stands around the rest of a call: it may fail the call, or pass it
on with further metadata. One that adds a provider's authorization serves plaintext channels, where
the transport takes no credentials.
-/

namespace SharedChannel

inductive Interceptor where
  /-- Takes part in calls of the given kinds, and fails them or adds metadata. -/
  | custom (label : String) (kinds : List CallKind) (add : List Header) (failure : Option Failure)
  /-- Adds the provider's entries to every call. -/
  | authorizing (provider : Option Provider)
  /-- An object that intercepts nothing. -/
  | other (text : String)

namespace Interceptor

def label : Interceptor → String
  | custom label _ _ _ => label
  | authorizing p => "auth:" ++ (p.map (·.name.label)).getD "None"
  | other text => text

/-- Whether the object intercepts calls of any kind. -/
def isValid : Interceptor → Bool
  | custom _ kinds _ _ => !kinds.isEmpty
  | authorizing _ => true
  | other _ => false

/-- A call of the given kind through the interceptor to the rest of it. -/
def around {α : Type} (i : Interceptor) (kind : CallKind) (d : CallDetails)
    (rest : CallDetails → Action α) : Action α :=
  match i with
  | custom label kinds add failure =>
    if kinds.contains kind then do
      Action.emit (.intercept label kind d)
      Action.raise failure
      rest (d.extend (add.map Entry.ofHeader))
    else rest d
  | authorizing p => do rest (← Provider.authorize p d)
  | other _ => rest d

end Interceptor

end SharedChannel
