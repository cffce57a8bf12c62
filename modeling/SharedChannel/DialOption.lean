import SharedChannel.Interceptor
import SharedChannel.Security

/-!
Dial options. Each option sets one transport setting; applied in order to fresh `DialSettings`, the
last one wins for single values, and channel arguments and interceptors add up.
-/

namespace SharedChannel

structure DialSettings where
  security : Option Security := none
  callCredentials : Option Provider := none
  channelOptions : List (Value × Value) := []
  interceptors : List Interceptor := []
  compression : Option Compression := none
  block : Bool := false

inductive DialOption where
  | transportCredentials (security : Option Security)
  | perCallCredentials (provider : Option Provider)
  | channelOption (name v : Value)
  | interceptors (added : List Interceptor)
  | compression (algorithm : Option Compression)
  | block

namespace DialOption

/-- The channel argument that names the user agent. -/
def userAgent (agent : Value) : DialOption :=
  .channelOption (.text "grpc.primary_user_agent") agent

/-- The name of an option. That of a channel argument is taken to be short enough to be written. -/
def name : DialOption → String
  | transportCredentials _ => "transport_credentials"
  | perCallCredentials _ => "per_call_credentials"
  | channelOption name _ => "channel_option:" ++ name.inFull
  | interceptors _ => "interceptors"
  | compression _ => "compression"
  | block => "block"

def toText (o : DialOption) : String := "DialOption(" ++ o.name ++ ")"

def apply (s : DialSettings) : DialOption → DialSettings
  | transportCredentials security => { s with security := security }
  | perCallCredentials provider => { s with callCredentials := provider }
  | channelOption name v => { s with channelOptions := s.channelOptions ++ [(name, v)] }
  | interceptors added => { s with interceptors := s.interceptors ++ added }
  | compression algorithm => { s with compression := algorithm }
  | block => { s with block := true }

/-- The mandatory credentials first, the caller's options after them. -/
def withMandatory (security : Option Security) (provider : Option Provider)
    (extra : List DialOption) : List DialOption :=
  .transportCredentials security :: .perCallCredentials provider :: extra

end DialOption

/-- The settings that options add up to. -/
def DialSettings.ofOptions (options : List DialOption) : DialSettings :=
  options.foldl DialOption.apply {}

end SharedChannel
