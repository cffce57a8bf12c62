import SharedChannel.Channel
import SharedChannel.DialOption

/-!
Dialing. `dial` opens a channel to a host with the settings that its options add up to: a secure one
with the provider as call credentials, or a plaintext one with the provider as its first
interceptor, which a provider that requires TLS refuses. With `block` it waits until the channel is
ready, and closes it again when the wait runs out of time.
-/

namespace SharedChannel

namespace Dial

def logger : String := "zitadel_client.dial"

/-- Opens a secure channel, with the provider as call credentials. -/
def openSecure (host : String) (roots : Value) (s : DialSettings) : Action Channel := do
  let calls ←
    match s.callCredentials with
    | some p => do
      Action.emit (.callCredentials p.name Provider.authorizationKey)
      Action.raise (← read).callCredentialsFailure
      Action.emit (.compositeCredentials [Provider.authorizationKey])
      Action.raise (← read).compositionFailure
      pure [Provider.authorizationKey]
    | none => pure []
  let number ←
    Action.openChannel (.secureChannel host roots calls s.channelOptions s.compression)
  return ⟨number, .tls roots, s.callCredentials, []⟩

/-- Opens a plaintext channel, unless the provider requires TLS. -/
def openPlain (host : String) (s : DialSettings) : Action Channel := do
  match s.callCredentials with
  | some p => if p.requiresTls then throw (.plaintextCredentials host)
  | none => pure ()
  let number ← Action.openChannel (.plainChannel host s.channelOptions s.compression)
  return ⟨number, .plaintext, none, []⟩

/-- The interceptors for a channel: on a plaintext channel that of the provider, and behind it those
of the settings. -/
def interceptors (security : Security) (s : DialSettings) : List Interceptor :=
  match security with
  | .tls _ => s.interceptors
  | .plaintext => (s.callCredentials.toList.map fun p => .authorizing (some p)) ++ s.interceptors

/-- Waits for a channel to be ready. -/
def wait (channel : Nat) (timeout : Value) : Action Unit := do
  Action.emit (.readiness channel)
  Action.emit (.readyWait timeout)
  let ready := (← read).ready
  Action.pass ready.takes
  Action.raise ready.failure

/-- Waits for a channel to be ready and closes it when the time is up. Other failures leave it
open. -/
def awaitReady (host : String) (channel : Nat) (timeout : Value) : Action Unit := do
  match ← Action.attempt (wait channel timeout) with
  | .ok () => pure ()
  | .error f =>
    if f.kind = .timeout then
      Action.closeChannel channel
      let limit ← Action.ofExcept timeout.toText
      Action.record .error logger ("Channel to " ++ host ++ " not ready within " ++ limit ++ "s")
    throw f

/-- The channel with interceptors put around it, if there are any. All of them have to be valid. -/
def intercept (c : Channel) (around : List Interceptor) : Action Channel := do
  if around.isEmpty then return c
  Action.emit (.wrap c.number (around.map (·.label)))
  if !around.all (·.isValid) then throw .notAnInterceptor
  Action.raise (← read).wrapFailure
  return { c with interceptors := around }

def summary (host : String) (security : Security) (s : DialSettings) : String :=
  "Dialing " ++ host ++ " (secure=" ++ (Value.bool security.isSecure).inFull ++
    ", channel_options=" ++ toString s.channelOptions.length ++ ", interceptors=" ++
    toString (interceptors security s).length ++ ", block=" ++ (Value.bool s.block).inFull ++ ")"

end Dial

open Dial in
def dial (host : String) (options : List DialOption) (timeout : Value) : Action Channel := do
  let s := DialSettings.ofOptions options
  let channel ←
    match s.security with
    | none => throw .noTransport
    | some (.tls roots) => openSecure host roots s
    | some .plaintext => openPlain host s
  Action.record .debug logger (summary host channel.security s)
  if s.block then awaitReady host channel.number timeout
  intercept channel (interceptors channel.security s)

end SharedChannel
