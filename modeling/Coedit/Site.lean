import Coedit.Json
import Coedit.Lock.Locker
import Coedit.Operation
import Coedit.Workers

/-!
# Sites

A site is a number of services that share a lease store, together with every
operation they have begun.  Each service has a locker and a pool of workers of its
own.  The functions of a site are the atomic steps of a run: an operation begins, a
call takes effect in the store, its answer arrives, a pause is over, a body ends,
an operation is cancelled or given up.  Any order of such steps is a run.
-/

namespace Coedit

/-- Which service of a site; its locker has the same number. -/
abbrev ServiceId := Nat

/-- Which operation of a site. -/
abbrev OperationId := Nat

namespace Service

structure Settings where
  /-- How long an operation waits for its lock unless it says otherwise. -/
  defaultMaxWait : Duration
  /-- How long a shutdown lets submitted work finish before it is given up. -/
  shutdownGrace : Duration
  deriving DecidableEq, Repr

def Settings.standard : Settings := ⟨.ofSecs 5, .ofSecs 10⟩

/-- A service at one moment, in numbers. -/
structure Stats where
  heldLocks : Nat
  activeWorkers : Nat
  submittedTasks : Nat
  completedTasks : Nat
  deriving DecidableEq, Repr

/-- The names of the numbers, in the order in which they are reported. -/
def Stats.fields (stats : Stats) : List (String × Nat) :=
  [("held_locks", stats.heldLocks), ("active_workers", stats.activeWorkers),
    ("submitted_tasks", stats.submittedTasks), ("completed_tasks", stats.completedTasks)]

/-- The report as JSON. -/
def Stats.render (stats : Stats) : String :=
  Json.renderMembers (stats.fields.map fun (name, number) => (name, toString number))

end Service

structure Service where
  settings : Service.Settings
  workers : Workers
  deriving DecidableEq, Repr

/-- An operation of a site. -/
structure Site.Entry (α ε : Type) where
  service : ServiceId
  operation : Operation α ε
  /-- The store has answered the call the operation needs; the answer has yet to
  arrive. -/
  reply : Option Lease.Reply

/-- A state an operation left and the one it went to. -/
structure Site.Change where
  resource : String
  source : Operation.State
  target : Operation.State
  deriving DecidableEq, Repr

structure Site (S α ε : Type) where
  lockers : Lock.Lockers S
  services : Table ServiceId Service
  operations : Table OperationId (Site.Entry α ε)
  nextOperation : OperationId
  /-- The changes of state of all operations, latest first. -/
  changes : List Site.Change

namespace Site

variable {S α ε : Type}

/-- A site without services. -/
def create (store : S) : Site S α ε := ⟨⟨store, .empty⟩, .empty, .empty, 0, []⟩

def addService (site : Site S α ε) (id : ServiceId) (locker : Lock.Locker)
    (settings : Service.Settings) : Site S α ε :=
  { site with
    lockers := { site.lockers with members := site.lockers.members.insert id locker }
    services := site.services.insert id ⟨settings, .idle⟩ }

def service (site : Site S α ε) (id : ServiceId) : Service :=
  (site.services.get? id).getD ⟨.standard, .idle⟩

def locker (site : Site S α ε) (id : ServiceId) : Lock.Locker :=
  (site.lockers.members.get? id).getD ⟨.standard, .empty⟩

/-- Whether a service still takes operations. -/
def isAccepting (site : Site S α ε) (id : ServiceId) : Bool := (site.service id).workers.accepting

def stats (site : Site S α ε) (id : ServiceId) : Service.Stats :=
  let workers := (site.service id).workers
  ⟨(site.locker id).heldCount, workers.active, workers.submitted, workers.completed⟩

def modifyWorkers (site : Site S α ε) (id : ServiceId) (change : Workers → Workers) : Site S α ε :=
  { site with services := site.services.modify id fun service =>
      { service with workers := change service.workers } }

/-! ## Operations -/

/-- The changes of state between two moments of a tracker, latest first. -/
def newChanges (before after : Operation.Tracker) : List Change :=
  let states := after.state :: after.earlier
  let count := after.earlier.length - before.earlier.length
  ((states.zip after.earlier).take count).map fun pair => ⟨after.resource, pair.2, pair.1⟩

/-- Write an operation back after a step. -/
def update (site : Site S α ε) (id : OperationId) (entry : Entry α ε)
    (operation : Operation α ε) (reply : Option Lease.Reply) : Site S α ε :=
  { site with
    operations := site.operations.insert id ⟨entry.service, operation, reply⟩
    changes := newChanges entry.operation.tracker operation.tracker ++ site.changes }

/-- Add an operation that has not begun. -/
def add (site : Site S α ε) (service : ServiceId) (plan : Plan) (maxWait : Option Duration) :
    OperationId × Site S α ε :=
  let id := site.nextOperation
  let wait := maxWait.getD (site.service service).settings.defaultMaxWait
  (id, { site with
    operations := site.operations.insert id
      ⟨service, .create plan (site.locker service).settings wait, none⟩
    nextOperation := id + 1 })

/-- An operation on the caller's own task; a closed service takes none. -/
def enter (site : Site S α ε) (service : ServiceId) (plan : Plan) (maxWait : Option Duration) :
    Except (Operation.Failure ε) (OperationId × Site S α ε) :=
  if site.isAccepting service then .ok (site.add service plan maxWait)
  else .error (.rejected plan.key)

/-- An operation for the workers of a service; a closed service takes none. -/
def submit (site : Site S α ε) (service : ServiceId) (plan : Plan) (maxWait : Option Duration) :
    Except (Operation.Failure ε) (WorkerId × OperationId × Site S α ε) :=
  match (site.service service).workers.spawn? with
  | none => .error (.rejected plan.key)
  | some (worker, workers) =>
      let (id, after) := site.add service plan maxWait
      .ok (worker, id, after.modifyWorkers service fun _ => workers)

def operation? (site : Site S α ε) (id : OperationId) : Option (Operation α ε) :=
  (site.operations.get? id).map Entry.operation

/-- What an operation waits for. -/
def need? (site : Site S α ε) (id : OperationId) : Option Operation.Need :=
  (site.operation? id).bind Operation.need?

/-- How an operation ended. -/
def result? (site : Site S α ε) (id : OperationId) :
    Option (Except (Operation.Failure ε) α) :=
  (site.operation? id).bind Operation.result?

/-- The call an operation needs takes effect, or fails without effect. -/
def perform [Lease.Store S] (site : Site S α ε) (id : OperationId) (failure : Option StoreError)
    (now : Instant) : Site S α ε :=
  match site.operations.get? id with
  | none => site
  | some entry =>
      match entry.operation.need?, entry.reply with
      | some (.lock (.call call)), none =>
          let (reply, lockers) := site.lockers.call entry.service failure now call
          update { site with lockers := lockers } id entry entry.operation (some reply)
      | _, _ => site

/-- An operation goes on: it begins, an answer arrives, or a pause is over. -/
def resume (site : Site S α ε) (id : OperationId) (moment : Lock.Moment) : Site S α ε :=
  match site.operations.get? id with
  | none => site
  | some entry =>
      match entry.operation.need?, entry.reply with
      | some .start, _ => site.update id entry (entry.operation.begin moment) none
      | some (.lock (.call _)), some reply =>
          site.update id entry (entry.operation.answered reply moment) none
      | some (.lock (.pause _)), _ => site.update id entry (entry.operation.rested moment) none
      | _, _ => site

/-- The body of an operation has ended. -/
def bodyEnded (site : Site S α ε) (id : OperationId) (ending : Operation.Ending α ε) :
    Site S α ε :=
  match site.operations.get? id with
  | none => site
  | some entry => site.update id entry (entry.operation.bodyEnded ending) entry.reply

/-- Cancel an operation that has not begun. -/
def cancel (site : Site S α ε) (id : OperationId) : Bool × Site S α ε :=
  match site.operations.get? id with
  | none => (false, site)
  | some entry =>
      let (cancelled, operation) := entry.operation.cancel
      (cancelled, site.update id entry operation entry.reply)

/-- Give an operation up half-way.  The answer is what has to be given back on
behalf of which service. -/
def abandon (site : Site S α ε) (id : OperationId) :
    Option (ServiceId × Lease.Call) × Site S α ε :=
  match site.operations.get? id with
  | none => (none, site)
  | some entry =>
      let (left, operation) := entry.operation.abandon
      (left.map fun (key, token) => (entry.service, .revoke key token),
        site.update id entry operation none)

/-- The result of waiting for an operation whose task was ended. -/
def cutOff (site : Site S α ε) (id : OperationId) :
    Option (Except (Operation.Failure ε) α) × Site S α ε :=
  match site.operations.get? id with
  | none => (none, site)
  | some entry =>
      let (result, operation) := entry.operation.cutOff
      (some result, site.update id entry operation entry.reply)

/-! ## Questions -/

variable [Lease.Store S]

/-- Make a call on behalf of a service. -/
def call (site : Site S α ε) (id : ServiceId) (now : Instant) (call : Lease.Call) :
    Lease.Reply × Site S α ε :=
  let (reply, lockers) := site.lockers.call id none now call
  (reply, { site with lockers := lockers })

/-- Is a key held by anyone? -/
def isLocked (site : Site S α ε) (id : ServiceId) (now : Instant) (key : String) :
    Except (Operation.Failure ε) Bool × Site S α ε :=
  match site.call id now (.check key) with
  | (.ok held, after) => (.ok held, after)
  | (.error error, after) => (.error (.ofStore key error), after)

/-- How long is a key still held? -/
def timeLeft (site : Site S α ε) (now : Instant) (key : String) :
    Except (Operation.Failure ε) (Option Duration) × Site S α ε :=
  let (reply, store) := Lease.Store.timeLeft site.lockers.store now key
  let after := { site with lockers := { site.lockers with store := store } }
  match reply with
  | .ok left => (.ok left, after)
  | .error error => (.error (.ofStore key error), after)

/-- The calls that give back whatever a service still holds. -/
def revocations (site : Site S α ε) (id : ServiceId) : List Lease.Call :=
  (site.locker id).revocations

end Site

end Coedit
