import Coedit.Lock.Settings

/-!
# Backoff

The pauses between attempts: each is twice the one before, up to a limit, plus a
little jitter, and none reaches past the deadline.
-/

namespace Coedit.Lock

/-- What a step learns from its surroundings. -/
structure Moment where
  /-- The readings of the clock during the step, in order. -/
  clock : Nat → Instant
  /-- A random addition to the next pause. -/
  jitter : Duration
  /-- A token that nobody has used. -/
  token : String

/-- A moment in which the clock stands still. -/
def Moment.at (now : Instant) (jitter : Duration) (token : String) : Moment :=
  ⟨fun _ => now, jitter, token⟩

structure Backoff where
  started : Instant
  deadline : Instant
  /-- The next pause, before jitter. -/
  delay : Duration
  limit : Duration
  deriving DecidableEq, Repr

namespace Backoff

/-- Start to wait, for at most `maxWait`. -/
def start (settings : Settings) (now : Instant) (maxWait : Duration) : Backoff where
  started := now
  deadline := now.later maxWait
  delay := settings.initialBackoff
  limit := settings.maxBackoff

/-- The time since the start. -/
def waited (backoff : Backoff) (now : Instant) : Duration := now.since backoff.started

/-- The time up to the deadline. -/
def remaining (backoff : Backoff) (now : Instant) : Duration := backoff.deadline.since now

/-- The length of the next pause. -/
def pauseLength (backoff : Backoff) (now : Instant) (jitter : Duration) : Duration :=
  min (backoff.delay + jitter) (backoff.remaining now)

/-- The backoff after a pause. -/
def doubled (backoff : Backoff) : Backoff :=
  { backoff with delay := min backoff.delay.double backoff.limit }

/-- The next pause and the backoff after it; none once the deadline has come. -/
def pause? (backoff : Backoff) (now : Instant) (jitter : Duration) : Option (Duration × Backoff) :=
  if backoff.deadline ≤ now then none
  else some (backoff.pauseLength now jitter, backoff.doubled)

end Backoff

end Coedit.Lock
