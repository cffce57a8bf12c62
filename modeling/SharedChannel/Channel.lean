import SharedChannel.Interceptor
import SharedChannel.Security

/-!
Channels. A call runs through the interceptors of the channel in order, the first one outermost,
and then reaches the transport. There a secure channel asks the credential plugin once; a closed
channel refuses before that. How such calls end is for the transport to say.
-/

namespace SharedChannel

structure Channel where
  number : Nat
  security : Security
  /-- The call credentials of a secure channel. -/
  plugin : Option Provider
  interceptors : List Interceptor

namespace Channel

/-- The entries that a provider answers with as the plugin of a call. Without them the call fails,
in the way of the transport. -/
def grantedEntries (p : Provider) (d : CallDetails) : Action Metadata := do
  let transport := (← read).transport
  match ← Action.attempt (p.plugin (some d.methodName) pure) with
  | .ok (.granted entries) => return entries
  | .ok (.refused f) =>
    Action.emit (.pluginFailure f)
    throw (transport.refused f)
  | .error f => throw (transport.unanswered f)

/-- The metadata of the credential plugin, which only a secure channel has. -/
def pluginMetadata (c : Channel) (d : CallDetails) : Action (Option Metadata) :=
  match c.security, c.plugin with
  | .plaintext, _ => pure none
  | .tls _, none => pure (some [])
  | .tls _, some p => some <$> grantedEntries p d

/-- A call on the channel itself. -/
def transmit (c : Channel) (kind : CallKind) (request : Value) (d : CallDetails) :
    Action Reply := do
  let transport := (← read).transport
  if (← get).isClosed c.number then throw transport.closed
  let plugin ← c.pluginMetadata d
  Action.emit (.call c.number kind request d plugin)
  Action.ofExcept (transport.exchange kind request d plugin)

def through (c : Channel) (kind : CallKind) (request : Value) :
    List Interceptor → CallDetails → Action Reply
  | [], d => c.transmit kind request d
  | i :: rest, d => i.around kind d (c.through kind request rest)

def invoke (c : Channel) (call : Call) : Action Reply :=
  c.through call.kind call.request c.interceptors call.details

def close (c : Channel) : Action Unit := Action.closeChannel c.number

end Channel

end SharedChannel
