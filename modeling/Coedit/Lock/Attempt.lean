import Coedit.Lease
import Coedit.Lock.Backoff

/-!
# Attempts at one key

The two loops from which every way to get a lock is made.  `Attempt` claims a key
again and again until it has it; `Watch` looks at keys, one after the other, until
none of them is held.  Both are told the answer to their last call and say what
comes next, and both give up only at an answer that comes after the deadline.
-/

namespace Coedit.Lock

/-- Why an attempt to get a lock, or to see one free, ends without it. -/
inductive Failure where
  /-- The time was up, with the wait stuck on this key. -/
  | timeout (key : String) (waited : Duration)
  /-- The store failed while this key was wanted. -/
  | unavailable (key : String) (source : StoreError)
  deriving DecidableEq, Repr

def Failure.message : Failure → String
  | .timeout key waited =>
      "timed out after " ++ waited.render ++ " waiting for lock " ++ key
  | .unavailable key source =>
      "lock store unavailable while acquiring " ++ key ++ ": " ++ source.message

/-- A claim that is repeated until it succeeds. -/
structure Attempt where
  key : String
  /-- The token under which the key is claimed, the same each time. -/
  token : String
  ttl : Duration
  backoff : Backoff
  deriving DecidableEq, Repr

/-- What follows the answer to a claim. -/
inductive Attempt.Next where
  | taken
  | again (pause : Duration) (attempt : Attempt)
  | failed (failure : Failure)
  deriving DecidableEq, Repr

namespace Attempt

/-- The call to make. -/
def call (attempt : Attempt) : Lease.Call := .claim attempt.key attempt.token attempt.ttl

/-- Go on after an answer.  The clock is read once to see whether the deadline
has come, and once more to say how long the wait was. -/
def next (attempt : Attempt) (reply : Lease.Reply) (moment : Moment) : Next :=
  match reply with
  | .error error => .failed (.unavailable attempt.key error)
  | .ok true => .taken
  | .ok false =>
      match attempt.backoff.pause? (moment.clock 0) moment.jitter with
      | some (pause, backoff) => .again pause { attempt with backoff := backoff }
      | none => .failed (.timeout attempt.key (attempt.backoff.waited (moment.clock 1)))

end Attempt

/-- Keys that are looked at until none is held. -/
structure Watch where
  /-- The key being looked at. -/
  key : String
  /-- The keys still to come. -/
  others : List String
  backoff : Backoff
  deriving DecidableEq, Repr

/-- What follows the answer to a look. -/
inductive Watch.Next where
  | free
  | look (watch : Watch)
  | again (pause : Duration) (watch : Watch)
  | failed (failure : Failure)
  deriving DecidableEq, Repr

namespace Watch

/-- Start to look at some keys; there is nothing to watch without any. -/
def start? (keys : List String) (backoff : Backoff) : Option Watch :=
  match keys with
  | [] => none
  | key :: others => some ⟨key, others, backoff⟩

/-- The call to make. -/
def call (watch : Watch) : Lease.Call := .check watch.key

/-- Go on after an answer.  The backoff carries over from key to key. -/
def next (watch : Watch) (reply : Lease.Reply) (moment : Moment) : Next :=
  match reply with
  | .error error => .failed (.unavailable watch.key error)
  | .ok false =>
      match watch.others with
      | [] => .free
      | key :: others => .look { watch with key := key, others := others }
  | .ok true =>
      match watch.backoff.pause? (moment.clock 0) moment.jitter with
      | some (pause, backoff) => .again pause { watch with backoff := backoff }
      | none => .failed (.timeout watch.key (watch.backoff.waited (moment.clock 1)))

end Watch

end Coedit.Lock
