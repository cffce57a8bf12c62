import SharedChannel.Failure

/-!
Durations. A number of any kind means so many seconds, and no value means no limit; other values
mean no duration.
-/

namespace SharedChannel

/-- The duration that a value means; none is no limit. -/
def Value.duration? : Value → Except Failure (Option Binary64)
  | .none => .ok Option.none
  | .float x => .ok (some x)
  | .bool b => .ok (some (.ofInt (if b then 1 else 0)))
  | .int n =>
    match Binary64.ofInt n with
    | .infinite _ => .error .durationOverflow
    | x => .ok (some x)
  | v => .error (.notADuration v)

end SharedChannel
