import SharedChannel.Call
import SharedChannel.Failure
import SharedChannel.Token

/-!
Effects: what the library does to its surroundings, one constructor for each kind of step. The
history of a run is the list of its effects in order.
-/

namespace SharedChannel

inductive Effect where
  | initialization (label origin : String) (timeout : Value)
  | tlsCredentials (roots : Value)
  | callCredentials (provider : ProviderName) (name : String)
  | compositeCredentials (names : List String)
  | secureChannel (host : String) (roots : Value) (calls : List String)
      (options : List (Value × Value)) (compression : Option Compression)
  | plainChannel (host : String) (options : List (Value × Value))
      (compression : Option Compression)
  | readiness (channel : Nat)
  | readyWait (timeout : Value)
  | wrap (channel : Nat) (labels : List String)
  | stub (channel : Nat) (path name : String)
  | close (channel : Nat)
  | ask (source : SourceName)
  | pluginFailure (failure : Failure)
  | intercept (label : String) (kind : CallKind) (details : CallDetails)
  | call (channel : Nat) (kind : CallKind) (request : Value) (details : CallDetails)
      (plugin : Option Metadata)
deriving DecidableEq, Repr

namespace Effect

def isAsk (source : SourceName) : Effect → Bool
  | ask s => s == source
  | _ => false

def isClose : Effect → Bool
  | close _ => true
  | _ => false

end Effect

end SharedChannel
