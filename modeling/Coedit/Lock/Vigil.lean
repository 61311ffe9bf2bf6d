import Coedit.Lock.Acquisition

/-!
# Waiting for keys to be free

A watch on its own: nothing is taken, the keys are only looked at until none of
them is held or the time is up.  This and acquiring a lock are all that somebody can be
busy with at a lock.
-/

namespace Coedit.Lock

/-- Where a wait for free keys is. -/
inductive Vigil where
  | looking (watch : Watch)
  | lingering (pause : Duration) (watch : Watch)
  | free
  | failed (failure : Failure)
  deriving DecidableEq, Repr

namespace Vigil

/-- Begin to wait, for at most `maxWait`. -/
def start (keys : List String) (settings : Settings) (maxWait : Duration) (moment : Moment) :
    Vigil :=
  match Watch.start? keys (.start settings (moment.clock 0) maxWait) with
  | none => .free
  | some watch => .looking watch

def need? : Vigil → Option Need
  | .looking watch => some (.call watch.call)
  | .lingering pause _ => some (.pause pause)
  | .free => none
  | .failed _ => none

def result? : Vigil → Option (Except Failure Unit)
  | .free => some (.ok ())
  | .failed failure => some (.error failure)
  | _ => none

/-- Go on after the answer to a look. -/
def answered (vigil : Vigil) (reply : Lease.Reply) (moment : Moment) : Vigil :=
  match vigil with
  | .looking watch =>
      match watch.next reply moment with
      | .free => .free
      | .look watch => .looking watch
      | .again pause watch => .lingering pause watch
      | .failed failure => .failed failure
  | other => other

/-- Go on after a pause. -/
def rested : Vigil → Vigil
  | .lingering _ watch => .looking watch
  | other => other

end Vigil

/-! ## Quests -/

/-- What a locker is busy with. -/
inductive Quest where
  | acquisition (acquisition : Acquisition)
  | vigil (vigil : Vigil)
  deriving DecidableEq, Repr

namespace Quest

def need? : Quest → Option Need
  | .acquisition wanted => wanted.need?
  | .vigil kept => kept.need?

def answered (reply : Lease.Reply) (moment : Moment) : Quest → Quest
  | .acquisition wanted => .acquisition (wanted.answered reply moment)
  | .vigil kept => .vigil (kept.answered reply moment)

def rested (moment : Moment) : Quest → Quest
  | .acquisition wanted => .acquisition (wanted.rested moment)
  | .vigil kept => .vigil kept.rested

/-- How a quest ended; only an acquisition yields a token. -/
def result? : Quest → Option (Except Failure (Option String))
  | .acquisition wanted => wanted.result?.map (·.map some)
  | .vigil kept => kept.result?.map (·.map fun _ => none)

end Quest

end Coedit.Lock
