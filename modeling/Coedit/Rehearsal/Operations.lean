import Coedit.Rehearsal.Stage
import Coedit.Rehearsal.Troubled
import Coedit.Site

/-!
# Operations on a stage

The operations of a site as tasks: on the caller's own task, where a body can be
given up half-way, and on the workers of a service, with the shutdown that drains
them.
-/

namespace Coedit.Rehearsal

/-- A world with a site in it. -/
class HasSite (X : Type) (α ε : outParam Type) where
  site : X → Site Troubled α ε
  setSite : Site Troubled α ε → X → X

/-- The operations whose tasks have ended, in either way. -/
class HasTasks (X : Type) where
  ended : X → List OperationId
  dropped : X → List OperationId
  endTask : OperationId → X → X
  dropTask : OperationId → X → X

variable {X α ε : Type} [HasSite X α ε]

def modifySite (change : Site Troubled α ε → Site Troubled α ε) (world : X) : X :=
  HasSite.setSite (change (HasSite.site world)) world

/-- Let the lease store see the virtual clock. -/
def showClock (shown : Instant) (site : Site Troubled α ε) : Site Troubled α ε :=
  { site with lockers := { site.lockers with
      store := { site.lockers.store with clock := shown } } }

/-- Whether calls to the lease store take time. -/
def isSlow (world : X) : Bool := (HasSite.site world).lockers.store.inner.isSlow

/-- What an operation needs. -/
def operationNeed? (world : X) (id : OperationId) : Option Need :=
  match (HasSite.site world).need? id with
  | some .start => some .step
  | some (.lock (.call _)) => some (.call (isSlow world))
  | some (.lock (.pause duration)) => some (.pause duration)
  | some .body => none
  | none => none

/-- An operation up to its body, or from its body to its end. -/
def operationCourse (id : OperationId) : Course X where
  need? world := operationNeed? world id
  perform shown now := modifySite fun site => (showClock shown site).perform id none now
  resume moment := modifySite fun site => site.resume id moment

/-- Do something with the site at once. -/
def onSite {ρ : Type} (piece : (now : Instant) → Site Troubled α ε → ρ × Site Troubled α ε)
    (next : ρ → Play X) : Play X :=
  act (fun shown now world =>
    let (result, site) := piece now (showClock shown (HasSite.site world))
    (result, HasSite.setSite site world)) next

/-- Ask the site something that takes a call to the lease store. -/
def askSite {ρ : Type} (piece : (now : Instant) → Site Troubled α ε → ρ × Site Troubled α ε)
    (next : ρ → Play X) : Play X :=
  .act fun shown stage =>
    let (result, site) := piece stage.now (showClock shown (HasSite.site stage.subject))
    let goOn := next result
    ({ stage with
        subject := HasSite.setSite site stage.subject
        now := stage.now.later Stage.pace },
      if site.lockers.store.inner.isSlow then .yield goOn else goOn)

/-- Do something with the lease store at once. -/
def onStore {ρ : Type} (piece : (now : Instant) → Troubled → ρ × Troubled) (next : ρ → Play X) :
    Play X :=
  onSite (fun now site =>
    let (result, store) := piece now site.lockers.store
    (result, { site with lockers := { site.lockers with store := store } })) next

/-- Make a call on behalf of a service. -/
def makeCall (service : ServiceId) (call : Lease.Call) (next : Lease.Reply → Play X) : Play X :=
  askSite (fun now site => site.call service now call) next

/-- Ask the lease store how long a key is still leased. -/
def askTimeLeft (key : String) (next : Except StoreError (Option Duration) → Play X) : Play X :=
  askSite (fun now site =>
    let (left, store) := Lease.Store.timeLeft site.lockers.store now key
    (left, { site with lockers := { site.lockers with store := store } })) next

/-- Make calls one after the other; how many found what they were to remove? -/
def makeCalls (service : ServiceId) (next : Nat → Play X) : Nat → List Lease.Call → Play X
  | removed, [] => next removed
  | removed, call :: rest =>
      makeCall service call fun reply =>
        makeCalls service next (if reply.toOption.getD false then removed + 1 else removed) rest

/-- Give back whatever a service still holds. -/
def sweep (service : ServiceId) (next : Nat → Play X) : Play X :=
  onSite (fun _ site => (site.revocations service, site)) fun calls =>
    makeCalls service next 0 calls

/-- What is left to do when an operation is given up half-way. -/
def giveUp (id : OperationId) (stage : Stage X) : Stage X × Play X :=
  let (left, site) := (HasSite.site stage.subject).abandon id
  ({ stage with subject := HasSite.setSite site stage.subject },
    match left with
    | none => .stop
    | some (service, call) => makeCall service call fun _ => .stop)

/-- The body of an operation: it is told how to go on when it ends. -/
abbrev Body (X α ε : Type) := (Operation.Ending α ε → Play X) → Play X

/-- Run an operation with its body. -/
def runOperation (id : OperationId) (body : Body X α ε) (next : Play X) : Play X :=
  .guarded (giveUp id)
    ((operationCourse id).play
      (onSite (fun _ site => (site.need? id, site)) fun need =>
        if need = some .body then
          body fun ending =>
            onSite (fun _ site => ((), site.bodyEnded id ending)) fun _ =>
              (operationCourse id).play .stop
        else .stop))
    next

/-- Run an operation on the caller's task. -/
def runOnCaller (service : ServiceId) (plan : Plan) (maxWait : Option Duration)
    (body : Body X α ε) (next : Except (Operation.Failure ε) α → Play X) : Play X :=
  onSite (fun _ site =>
    match site.enter service plan maxWait with
    | .ok (id, site) => (Except.ok id, site)
    | .error failure => (.error failure, site)) fun
    | .error failure => next (.error failure)
    | .ok id =>
        runOperation id body <|
          onSite (fun _ site => (site.result? id, site)) fun
            | some result => next result
            | none => .stop

/-! ## Workers -/

/-- A task for the workers of a service, or of a pool on its own. -/
def workerTask (modify : (Workers → Workers) → X → X) (worker : WorkerId) (work : Play X)
    (ended : X → X) : Play X :=
  let leave (stage : Stage X) : Stage X :=
    { stage with subject := modify (·.leave worker) stage.subject }
  .act fun _ stage =>
    ({ stage with subject := modify Workers.enter stage.subject },
      .guarded (fun stage => (leave stage, .stop)) work <|
        .act fun _ stage =>
          let stage := leave stage
          ({ stage with subject := ended stage.subject }, .stop))

/-- Hand an operation to the workers of a service. -/
def submit [HasTasks X] (service : ServiceId) (plan : Plan) (maxWait : Option Duration)
    (body : Body X α ε) (next : Except (Operation.Failure ε) OperationId → Play X) : Play X :=
  onSite (fun _ site =>
    match site.submit service plan maxWait with
    | .ok (worker, id, site) => (Except.ok (worker, id), site)
    | .error failure => (.error failure, site)) fun
    | .error failure => next (.error failure)
    | .ok (worker, id) =>
        .spawn (some (service, worker))
          (fun stage => { stage with subject := HasTasks.dropTask id stage.subject })
          (workerTask (fun change => modifySite fun site => site.modifyWorkers service change)
            worker (runOperation id body .stop) (HasTasks.endTask id))
          (next (.ok id))

/-- Whether the task of an operation has ended. -/
def isFinished [HasTasks X] (world : X) (id : OperationId) : Bool :=
  (HasTasks.ended world).contains id || (HasTasks.dropped world).contains id

/-- Wait for the result of an operation of the workers. -/
def waitFor [HasTasks X] (id : OperationId)
    (next : Option (Except (Operation.Failure ε) α) → Play X) : Play X :=
  awaitThat (isFinished · id) <|
    act (fun _ _ world =>
      if (HasTasks.dropped world).contains id then
        let (result, site) := (HasSite.site world).cutOff id
        (result, HasSite.setSite site world)
      else ((HasSite.site world).result? id, world)) next

/-- Close a pool and let it drain; what is still outstanding when the grace is over
is cancelled and counted. -/
def drain (workers : X → Workers) (modify : (Workers → Workers) → X → X) (service : ServiceId)
    (grace : Duration) (next : Nat → Play X) : Play X :=
  act (fun _ _ world =>
    let (id, closed) := (workers world).close
    (id, modify (fun _ => closed) world)) fun id =>
    .await (fun stage => !((workers stage.subject).drain id).isWaiting) (some grace) <|
      act (fun _ _ world =>
        if ((workers world).drain id).isWaiting then
          let (outstanding, after) := (workers world).giveUp id
          (outstanding, modify (fun _ => after) world)
        else ([], modify (·.look id) world)) fun outstanding =>
          .cancel (outstanding.map fun worker => (service, worker)) (next outstanding.length)

/-- Shut a service down. -/
def shutDown (service : ServiceId) (next : Play X) : Play X :=
  onSite (fun _ site => ((site.service service).settings.shutdownGrace, site)) fun grace =>
    drain (fun world => ((HasSite.site world).service service).workers)
      (fun change => modifySite fun site => site.modifyWorkers service change) service grace
      fun _ => sweep service fun _ => next

end Coedit.Rehearsal
