import Coedit.Lock.Attempt

/-!
# Getting a lock

A lock is one key, taken under a guard: nothing else, or only while another key
is free, or with a wait until other keys are free.  An acquisition goes through
its phases one answer at a time; whatever it has taken and cannot keep it gives
back before it goes on or fails.
-/

namespace Coedit.Lock

/-- What must hold, besides having the key. -/
inductive Guard where
  | unguarded
  /-- The key is kept only if the blocker is not held. -/
  | unlessHeld (blocker : String)
  /-- The key is taken first; then the others are waited for. -/
  | untilFree (keys : List String)
  deriving DecidableEq, Repr

/-- Where an acquisition is. -/
inductive Phase where
  /-- The key is being claimed. -/
  | taking (attempt : Attempt)
  /-- A pause before the key is claimed again. -/
  | retrying (pause : Duration) (attempt : Attempt)
  /-- The key is ours; the blocker is being looked at. -/
  | checking (token blocker : String)
  /-- The blocker is held; the key is being given back. -/
  | yielding (token blocker : String)
  /-- A pause before a new round. -/
  | resting (pause : Duration)
  /-- The key is ours; the other keys are being looked at. -/
  | watching (token : String) (watch : Watch)
  /-- A pause before another look. -/
  | lingering (token : String) (pause : Duration) (watch : Watch)
  /-- The key is being given back before the acquisition fails. -/
  | retreating (token : String) (failure : Failure)
  | acquired (token : String)
  | failed (failure : Failure)
  deriving DecidableEq, Repr

/-- A lock being acquired. -/
structure Acquisition where
  key : String
  guard : Guard
  settings : Settings
  /-- How long the whole may take. -/
  maxWait : Duration
  /-- The wait as a whole; the rounds of `unlessHeld` pause by it. -/
  overall : Backoff
  phase : Phase
  deriving DecidableEq, Repr

/-- What an acquisition waits for. -/
inductive Need where
  | call (call : Lease.Call)
  | pause (duration : Duration)
  deriving DecidableEq, Repr

namespace Acquisition

/-- Move to another phase. -/
def into (acquisition : Acquisition) (phase : Phase) : Acquisition :=
  { acquisition with phase := phase }

/-- Claim the key under a new token, with `budget` to wait for it. -/
def claiming (acquisition : Acquisition) (budget : Duration) (started : Instant)
    (token : String) : Acquisition :=
  acquisition.into <| .taking
    { key := acquisition.key
      token := token
      ttl := acquisition.settings.ttl
      backoff := .start acquisition.settings started budget }

/-- Begin.  The clock is read for the whole, for what is left of it, and for the
first claim. -/
def start (key : String) (guard : Guard) (settings : Settings) (maxWait : Duration)
    (moment : Moment) : Acquisition :=
  let overall := Backoff.start settings (moment.clock 0) maxWait
  let budget :=
    match guard with
    | .unlessHeld _ => overall.remaining (moment.clock 1)
    | _ => maxWait
  claiming ⟨key, guard, settings, maxWait, overall, .resting .zero⟩
    budget (moment.clock 2) moment.token

/-- What the acquisition waits for, if it has not ended. -/
def need? (acquisition : Acquisition) : Option Need :=
  match acquisition.phase with
  | .taking attempt => some (.call attempt.call)
  | .retrying pause _ => some (.pause pause)
  | .checking _ blocker => some (.call (.check blocker))
  | .yielding token _ => some (.call (.revoke acquisition.key token))
  | .resting pause => some (.pause pause)
  | .watching _ watch => some (.call watch.call)
  | .lingering _ pause _ => some (.pause pause)
  | .retreating token _ => some (.call (.revoke acquisition.key token))
  | .acquired _ => none
  | .failed _ => none

/-- How the acquisition ended: with the token that holds the key, or without. -/
def result? (acquisition : Acquisition) : Option (Except Failure String) :=
  match acquisition.phase with
  | .acquired token => some (.ok token)
  | .failed failure => some (.error failure)
  | _ => none

/-- The token of the entry that is ours and that we have not tried to give back. -/
def token? (acquisition : Acquisition) : Option String :=
  match acquisition.phase with
  | .checking token _ => some token
  | .watching token _ => some token
  | .lingering token _ _ => some token
  | .acquired token => some token
  | _ => none

/-- A timeout reports the wait as a whole. -/
def withWaited (failure : Failure) (waited : Duration) : Failure :=
  match failure with
  | .timeout key _ => .timeout key waited
  | .unavailable key source => .unavailable key source

/-- Where the key taken under `token` leads. -/
def taken (acquisition : Acquisition) (token : String) (moment : Moment) : Phase :=
  match acquisition.guard with
  | .unguarded => .acquired token
  | .unlessHeld blocker => .checking token blocker
  | .untilFree keys =>
      let budget := acquisition.maxWait - acquisition.overall.waited (moment.clock 0)
      match Watch.start? keys (.start acquisition.settings (moment.clock 1) budget) with
      | none => .acquired token
      | some watch => .watching token watch

/-- Go on after the answer to the call that was needed. -/
def answered (acquisition : Acquisition) (reply : Lease.Reply) (moment : Moment) : Acquisition :=
  match acquisition.phase with
  | .taking attempt =>
      match attempt.next reply moment with
      | .taken => acquisition.into (acquisition.taken attempt.token moment)
      | .again pause attempt => acquisition.into (.retrying pause attempt)
      | .failed failure =>
          match acquisition.guard with
          | .unlessHeld _ =>
              acquisition.into
                (.failed (withWaited failure (acquisition.overall.waited (moment.clock 2))))
          | _ => acquisition.into (.failed failure)
  | .checking token blocker =>
      match reply with
      | .ok false => acquisition.into (.acquired token)
      | .ok true => acquisition.into (.yielding token blocker)
      | .error error => acquisition.into (.retreating token (.unavailable blocker error))
  | .yielding _ blocker =>
      match acquisition.overall.pause? (moment.clock 0) moment.jitter with
      | some (pause, overall) =>
          { acquisition with overall := overall, phase := .resting pause }
      | none =>
          acquisition.into
            (.failed (.timeout blocker (acquisition.overall.waited (moment.clock 1))))
  | .watching token watch =>
      match watch.next reply moment with
      | .free => acquisition.into (.acquired token)
      | .look watch => acquisition.into (.watching token watch)
      | .again pause watch => acquisition.into (.lingering token pause watch)
      | .failed failure => acquisition.into (.retreating token failure)
  | .retreating _ failure =>
      match acquisition.guard with
      | .untilFree _ =>
          acquisition.into
            (.failed (withWaited failure (acquisition.overall.waited (moment.clock 0))))
      | _ => acquisition.into (.failed failure)
  | _ => acquisition

/-- Go on after a pause. -/
def rested (acquisition : Acquisition) (moment : Moment) : Acquisition :=
  match acquisition.phase with
  | .retrying _ attempt => acquisition.into (.taking attempt)
  | .resting _ =>
      acquisition.claiming (acquisition.overall.remaining (moment.clock 0)) (moment.clock 1)
        moment.token
  | .lingering token _ watch => acquisition.into (.watching token watch)
  | _ => acquisition

end Acquisition

end Coedit.Lock
