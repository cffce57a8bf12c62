import SharedChannel.Call
import SharedChannel.Failure

/-!
The transport under the channels, which is not part of the library. A `Transport` says what it does
where that is its own affair: how a call fails that it does not send, and what comes of one that it
sends. What callers may rely on beyond that is stated by name, in `PassesOn` and `Uniform`.
-/

namespace SharedChannel

structure Transport where
  /-- What a call on a closed channel fails with. -/
  closed : Failure
  /-- What a call fails with whose credential plugin reports a failure. -/
  refused : Failure → Failure
  /-- What a call fails with whose credential plugin ends by a failure of its own. -/
  unanswered : Failure → Failure
  /-- What comes of a call that has its metadata and that of the plugin, if its channel has plugins:
  the reply, or why there is none. -/
  exchange : CallKind → Value → CallDetails → Option Metadata → Except Failure Reply

namespace Transport

/-- What the remote side answers to any call. -/
def remoteText : String := "response"

def reply (kind : CallKind) : Reply :=
  if kind.answersStream then .stream [remoteText] else .single remoteText

/-- A transport that reports failures as they are and brings an answer to every call. -/
def plain : Transport where
  closed := .closedChannel
  refused f := f
  unanswered f := f
  exchange kind _ _ _ := .ok (reply kind)

instance : Inhabited Transport := ⟨plain⟩

/-- The caller of a call sees the failure of its plugin as it is. -/
structure PassesOn (t : Transport) : Prop where
  refused : ∀ f, t.refused f = f
  unanswered : ∀ f, t.unanswered f = f

end Transport

end SharedChannel
