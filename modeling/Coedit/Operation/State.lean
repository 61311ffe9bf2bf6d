/-!
# States of an operation

What an observer can see of an operation: waiting, getting its lock, holding it,
running, having given it back, and the four ways to end.  A tracker keeps every
state its operation was in.
-/

namespace Coedit.Operation

inductive State where
  | pending
  | acquiring
  | locked
  | running
  | released
  | done
  | timedOut
  | providerError
  | cancelled
  deriving DecidableEq, Repr, Inhabited

namespace State

/-- All states, in the order of their numbers. -/
def all : List State :=
  [.pending, .acquiring, .locked, .running, .released, .done, .timedOut, .providerError,
    .cancelled]

def number (state : State) : Nat := all.idxOf state

def name : State → String
  | .pending => "PENDING"
  | .acquiring => "ACQUIRING"
  | .locked => "LOCKED"
  | .running => "RUNNING"
  | .released => "RELEASED"
  | .done => "DONE"
  | .timedOut => "TIMED_OUT"
  | .providerError => "PROVIDER_ERROR"
  | .cancelled => "CANCELLED"

/-- Whether the operation has ended. -/
def isTerminal : State → Bool
  | .done | .timedOut | .providerError | .cancelled => true
  | _ => false

end State

/-- The states of one operation, seen from outside. -/
structure Tracker where
  /-- The key the operation locks. -/
  resource : String
  state : State
  /-- The states before, latest first. -/
  earlier : List State
  deriving DecidableEq, Repr

namespace Tracker

/-- The tracker of an operation that has not begun. -/
def start (resource : String) : Tracker := ⟨resource, .pending, []⟩

/-- All states so far, in order. -/
def history (tracker : Tracker) : List State := (tracker.state :: tracker.earlier).reverse

/-- Go to a state, whatever the state is now. -/
def set (tracker : Tracker) (next : State) : Tracker :=
  ⟨tracker.resource, next, tracker.state :: tracker.earlier⟩

/-- Go from one state to another; nothing happens in any other state. -/
def move? (tracker : Tracker) (source target : State) : Option Tracker :=
  if tracker.state = source then some (tracker.set target) else none

end Tracker

end Coedit.Operation
