import Coedit.Document
import Coedit.Lock.Acquisition
import Coedit.Operation.Failure
import Coedit.Operation.State

/-!
# Operations under a lock

An operation gets the lock its plan names, runs its body, gives the lock back and
only then has a result.  The body is run by whoever owns the operation; the
operation says when it may start and is told how it ended.
-/

namespace Coedit

/-- What an operation locks, and what it must not overlap with. -/
inductive Plan where
  /-- One document.  Its key is not taken while the workspace is locked. -/
  | document (document : DocumentId)
  /-- A workspace.  Once it is locked, the operations that still run on the named
  documents are waited for. -/
  | workspace (workspace : String) (documents : List String)
  deriving DecidableEq, Repr

namespace Plan

/-- The key that is locked. -/
def key : Plan → String
  | .document target => Lock.documentKey target
  | .workspace name _ => Lock.workspaceKey name

/-- The documents that are named. -/
def documents : Plan → List String
  | .document target => [target.name]
  | .workspace _ names => names

/-- The guard under which it is locked. -/
def guard : Plan → Lock.Guard
  | .document target => .unlessHeld (Lock.workspaceKey target.workspace)
  | .workspace _ [] => .unguarded
  | .workspace home (name :: names) =>
      .untilFree ((name :: names).map fun name => Lock.documentKey ⟨home, name⟩)

/-- A batch over some documents of a workspace: each of them once, in the order of
their bytes. -/
def batch (home : String) (names : List String) : Plan :=
  .workspace home (names.mergeSort fun left right => decide (left ≤ right)).eraseReps

end Plan

namespace Operation

/-- Where an operation is. -/
inductive Phase (α ε : Type) where
  | idle
  | acquiring (acquisition : Lock.Acquisition)
  /-- The lock is held under this token and the body runs. -/
  | running (token : String)
  /-- The body has ended and the lock is being given back. -/
  | releasing (token : String) (ending : Ending α ε)
  | finished (result : Except (Failure ε) α)
  /-- The operation was given up half-way and goes no further. -/
  | abandoned

end Operation

/-- An operation whose body yields an `α` or fails with an `ε`. -/
structure Operation (α ε : Type) where
  plan : Plan
  settings : Lock.Settings
  /-- How long it may wait for its lock. -/
  maxWait : Duration
  tracker : Operation.Tracker
  phase : Operation.Phase α ε

namespace Operation

variable {α ε : Type}

/-- What an operation waits for. -/
inductive Need where
  /-- It has not begun. -/
  | start
  | lock (need : Lock.Need)
  /-- Its body has to run and end. -/
  | body
  deriving DecidableEq, Repr

/-- An operation that has not begun. -/
def create (plan : Plan) (settings : Lock.Settings) (maxWait : Duration) : Operation α ε :=
  ⟨plan, settings, maxWait, .start plan.key, .idle⟩

/-- The key the operation locks. -/
def resource (operation : Operation α ε) : String := operation.tracker.resource

def need? (operation : Operation α ε) : Option Need :=
  match operation.phase with
  | .idle => some .start
  | .acquiring acquisition => acquisition.need?.map .lock
  | .running _ => some .body
  | .releasing token _ => some (.lock (.call (.revoke operation.plan.key token)))
  | .finished _ => none
  | .abandoned => none

/-- How the operation ended. -/
def result? (operation : Operation α ε) : Option (Except (Failure ε) α) :=
  match operation.phase with
  | .finished result => some result
  | _ => none

/-- The state that tells why a lock was not had. -/
def failedState : Lock.Failure → State
  | .timeout .. => .timedOut
  | .unavailable .. => .providerError

/-- Follow the acquisition: run the body once the lock is held, end if it cannot
be had. -/
def follow (operation : Operation α ε) (acquisition : Lock.Acquisition) : Operation α ε :=
  match acquisition.result? with
  | none => { operation with phase := .acquiring acquisition }
  | some (.ok token) =>
      { operation with
        tracker := (operation.tracker.set .locked).set .running
        phase := .running token }
  | some (.error failure) =>
      { operation with
        tracker := operation.tracker.set (failedState failure)
        phase := .finished (.error (.ofLock operation.resource failure)) }

/-- Begin to get the lock, unless the operation has been cancelled. -/
def begin (operation : Operation α ε) (moment : Lock.Moment) : Operation α ε :=
  match operation.phase with
  | .idle =>
      match operation.tracker.move? .pending .acquiring with
      | none =>
          { operation with phase := .finished (.error (.cancelled operation.resource)) }
      | some tracker =>
          { operation with
            tracker := tracker
            phase := .acquiring
              (.start operation.plan.key operation.plan.guard operation.settings
                operation.maxWait moment) }
  | _ => operation

/-- The result that follows from how the body ended. -/
def resultOf (resource : String) : Ending α ε → Except (Failure ε) α
  | .value value => .ok value
  | .error error => .error (.failed resource (.error error))
  | .panic message => .error (.failed resource (.panic message))

/-- Go on after the answer to the call that was needed.  Whatever the answer to
giving the lock back is, the operation is over. -/
def answered (operation : Operation α ε) (reply : Lease.Reply) (moment : Lock.Moment) :
    Operation α ε :=
  match operation.phase with
  | .acquiring acquisition => operation.follow (acquisition.answered reply moment)
  | .releasing _ ending =>
      { operation with
        tracker := (operation.tracker.set .released).set .done
        phase := .finished (resultOf operation.resource ending) }
  | _ => operation

/-- Go on after a pause. -/
def rested (operation : Operation α ε) (moment : Lock.Moment) : Operation α ε :=
  match operation.phase with
  | .acquiring acquisition => operation.follow (acquisition.rested moment)
  | _ => operation

/-- The body has ended. -/
def bodyEnded (operation : Operation α ε) (ending : Ending α ε) : Operation α ε :=
  match operation.phase with
  | .running token => { operation with phase := .releasing token ending }
  | _ => operation

/-- Cancel an operation that has not begun: was it cancelled? -/
def cancel (operation : Operation α ε) : Bool × Operation α ε :=
  match operation.tracker.move? .pending .cancelled with
  | some tracker => (true, { operation with tracker := tracker })
  | none => (false, operation)

/-- Give an operation up half-way.  Only a lock under which the body runs is known
to have to be given back. -/
def abandon (operation : Operation α ε) : Option (String × String) × Operation α ε :=
  match operation.phase with
  | .finished _ => (none, operation)
  | .running token =>
      (some (operation.plan.key, token), { operation with phase := .abandoned })
  | _ => (none, { operation with phase := .abandoned })

/-- The result of an operation whose task was ended before it was done. -/
def cutOff (operation : Operation α ε) : Except (Failure ε) α × Operation α ε :=
  (.error (.cancelled operation.resource),
    if operation.tracker.state.isTerminal then operation
    else { operation with tracker := operation.tracker.set .cancelled })

end Operation

end Coedit
