import SharedChannel.Dial
import SharedChannel.Endpoint

/-!
Clients. A client is one channel to an endpoint with a stub for every remote service. `connect`
initializes the token source, dials, and builds the stubs, all within one timeout for the first two
steps; `close` closes the channel once.
-/

namespace SharedChannel

/-- Makes a token source for a client. -/
inductive Initializer where
  /-- A personal access token, which must not be empty. -/
  | personal (token : Value)
  | custom (label : String) (takes : Value) (outcome : Except Failure (Option TokenSource))

namespace Initializer

def run (i : Initializer) (origin : String) (timeout : Value) : Action (Option TokenSource) :=
  match i with
  | personal token => do
    if !token.truthy then throw .emptyPersonalToken
    Action.record .debug Provider.logger ("Using personal access token for " ++ origin)
    return some (.fixed .personal { accessToken := token })
  | custom label takes outcome => do
    Action.emit (.initialization label origin timeout)
    Action.pass takes
    Action.ofExcept outcome

end Initializer

inductive ClientOption where
  /-- The last one takes effect. -/
  | auth (initializer : Option Initializer)
  /-- Further dial options behind those given so far. -/
  | dial (options : List DialOption)

structure ClientSettings where
  initializer : Option Initializer := none
  dialOptions : List DialOption := []

def ClientOption.apply (s : ClientSettings) : ClientOption → ClientSettings
  | auth initializer => { s with initializer := initializer }
  | dial options => { s with dialOptions := s.dialOptions ++ options }

def ClientSettings.ofOptions (options : List ClientOption) : ClientSettings :=
  options.foldl ClientOption.apply {}

/-- A service's stub on a channel. -/
structure Stub where
  service : Service
  channel : Channel

/-- A part of a client that an assignment can take away. -/
inductive ClientPart where
  | channel
  | stubs
  | close
  | enter
deriving DecidableEq, Repr

structure Client where
  channel : Channel
  stubs : List (String × Stub)
  closed : Bool := false
  lost : List ClientPart := []

namespace Client

def logger : String := "zitadel_client.client"

/-- The time left until the deadline: nothing less than zero, and no limit without a deadline. -/
def remaining (deadline : Option Binary64) (now : Binary64) : Value :=
  match deadline with
  | some d => .float (d.sub now).positivePart
  | none => .none

/-- Runs the initializer, if there is one, and fails if the deadline has passed by then. -/
def obtainSource (e : Endpoint) (s : ClientSettings) (timeout : Value)
    (deadline : Option Binary64) : Action (Option TokenSource) := do
  match s.initializer with
  | none => return none
  | some i =>
    let source ← i.run e.origin (remaining deadline (← get).clock)
    match deadline with
    | some d =>
      if (← get).clock.atLeast d then
        -- a timeout that gives a deadline is not too long to be written
        Action.record .error logger
          ("Token source initialization for " ++ e.origin ++ " exceeded " ++ timeout.inFull ++ "s")
        throw .initializationTimeout
    | none => pure ()
    return source

/-- Dials with the endpoint's own transport security and a provider of the token source. -/
def newConnection (e : Endpoint) (source : Option TokenSource) (extra : List DialOption)
    (timeout : Value) : Action Channel := do
  let security ← Security.resolve e.domain e.tls .none
  let provider : Provider := ⟨.own, e.tls, source⟩
  dial e.host (DialOption.withMandatory (some security) (some provider) extra) timeout

/-- Loads the stub of a service and builds it on the channel. -/
def buildStub (channel : Channel) (service : Service) : Action (String × Stub) := do
  let supply := (← read).supply
  let _ ← Action.ofExcept (supply.load service.path service.stub)
  Action.emit (.stub channel.number service.path.toText service.stub)
  Action.raise (supply.failing.lookup service.accessor)
  return (service.accessor, ⟨service, channel⟩)

/-- Builds every stub. When one cannot be built this is recorded and the channel is closed. A
failure without a text cannot be recorded and leaves the channel open, and so do interrupts. -/
def buildStubs (e : Endpoint) (channel : Channel) : Action (List (String × Stub)) := do
  match ← Action.attempt (Service.all.mapM (buildStub channel)) with
  | .ok stubs => return stubs
  | .error f =>
    if f.isOrdinary then
      let text ← Action.ofExcept f.message
      Action.record .error logger ("Failed to create service stubs for " ++ e.host ++ ": " ++ text)
      channel.close
    throw f

/-- What is recorded of an attempt. The flag of the endpoint is taken to be short enough to be
written. -/
def summary (e : Endpoint) (s : ClientSettings) (source : Option TokenSource) : String :=
  "Connecting to " ++ e.host ++ " (tls=" ++ e.tls.inFull ++ ", authenticated=" ++
    (Value.bool source.isSome).inFull ++ ", extra_dial_options=" ++
    toString s.dialOptions.length ++ ")"

/-- Connects to an endpoint. -/
def connect (e : Endpoint) (options : List ClientOption) (timeout : Value) : Action Client := do
  let s := ClientSettings.ofOptions options
  let duration ← Action.ofExcept timeout.duration?
  let start := (← get).clock
  let deadline := duration.map start.add
  let source ← obtainSource e s timeout deadline
  Action.record .debug logger (summary e s source)
  let channel ← newConnection e source s.dialOptions (remaining deadline (← get).clock)
  let stubs ← buildStubs e channel
  Action.record .info logger ("Client ready for " ++ e.host)
  return { channel, stubs }

/-- The options of a config: its personal access token before those of the caller. -/
def configOptions (c : Config) (options : List ClientOption) : List ClientOption :=
  if c.pat.truthy then .auth (some (.personal c.pat)) :: options else options

def ofConfig (c : Config) (options : List ClientOption) : Action Client := do
  let e ← Action.ofExcept (Endpoint.ofConfig c)
  connect e (configOptions c options) c.timeout

/-- Connects with the settings of the process. -/
def ofSettings (options : List ClientOption) : Action Client := do
  ofConfig (← Action.settings Settings.current).config options

/-- The kind of a client, as messages name it. -/
def kindName : String := "Client"

def has (c : Client) (part : ClientPart) : Bool := !c.lost.contains part

/-- The properties that give the stubs, each with the key that its stub is kept under. -/
def stubKeys : List (String × String) := [
  ("system_service", "system_service"),
  ("admin_service", "admin_service"),
  ("management_service", "management_service"),
  ("auth_service", "auth_service"),
  ("user_service", "user_service"),
  ("user_service_v2", "user_service_v2"),
  ("settings_service", "settings_service"),
  ("settings_service_v2", "settings_service_v2"),
  ("session_service", "session_service"),
  ("session_service_v2", "session_service_v2"),
  ("organization_service", "organization_service"),
  ("organization_service_v2", "organization_service_v2"),
  ("oidc_service", "oidc_service"),
  ("oidc_service_v2", "oidc_service_v2")]

/-- The stub that an attribute gives: each property looks up its own key. -/
def access (c : Client) (accessor : String) : Except Failure Stub :=
  match stubKeys.lookup accessor with
  | none => .error (.unknownAttribute kindName accessor)
  | some key =>
    if !c.has .stubs then .error .missingStubs
    else
      match c.stubs.lookup key with
      | some stub => .ok stub
      | none => .error (.missingKey key)

/-- Closes the channel, unless that was done before. If it fails the client can be closed again. -/
def close (c : Client) : Action Client := do
  if !c.has .close then throw .missingMethod
  if c.closed then return c
  if !c.has .channel then throw .missingChannel
  c.channel.close
  Action.record .debug logger "Client channel closed"
  return { c with closed := true }

/-- The start of a block by hand: the client is what the block uses. -/
def enter (c : Client) : Except Failure Client :=
  if c.has .enter then .ok c else .error .missingMethod

/-- The end of a block that used the client: closes it, and the outcome is that of the block unless
closing fails. -/
def leave (c : Client) (block : Except Failure Unit) : Action (Client × Except Failure Unit) := do
  return (← c.close, block)

/-- The attributes that are read-only: the channel and the stubs. -/
def isProperty (name : String) : Bool :=
  name == "channel" || stubKeys.any (·.1 == name)

/-- Assigns nothing to an attribute. What the client needs is lost then, and it no longer knows that
it was closed; of the other attributes some refuse it and the rest do not matter. -/
def clear (c : Client) (name : String) : Except Failure Client :=
  if isProperty name then .error (.readOnlyProperty name)
  else
    match name with
    | "_channel" => .ok { c with lost := .channel :: c.lost }
    | "_stubs" => .ok { c with lost := .stubs :: c.lost }
    | "close" => .ok { c with lost := .close :: c.lost }
    | "__enter__" => .ok { c with lost := .enter :: c.lost }
    | "_closed" => .ok { c with closed := false }
    | _ =>
      match Attribute.refusal? kindName name .none with
      | some f => .error f
      | none => .ok c

end Client

end SharedChannel
