import Coedit.Rehearsal.Seekers

/-!
# A scene of operations

A world in which lockers and services are played with by name: holds that were got,
operations that were submitted, gates that bodies wait at, events they leave, and a
pool of workers of its own.
-/

namespace Coedit.Rehearsal

/-- How a task of the pool ended. -/
inductive Ended (α : Type) where
  | returned (value : α)
  | panicked
  | cancelled

/-- The world of a scene.  Operations and tasks have values in `α` and errors in
`ε`. -/
structure Scene (α ε : Type) where
  site : Site Troubled α ε
  seeker : Option Seeker
  holds : Table String Lock.Hold
  /-- The operations that can still be waited for. -/
  handles : Table String OperationId
  /-- The operations that can be observed. -/
  trackers : Table String OperationId
  gates : List String
  /-- What bodies have left behind, latest first. -/
  events : List String
  ended : List OperationId
  dropped : List OperationId
  /-- The pool of the scene itself and its tasks. -/
  workers : Workers
  joins : Table String WorkerId
  endings : Table WorkerId (Ended α)
  /-- What the scene comes to. -/
  result : Option α

namespace Scene

variable {α ε : Type}

def create (site : Site Troubled α ε) : Scene α ε :=
  ⟨site, none, .empty, .empty, .empty, [], [], [], [], .idle, .empty, .empty, none⟩

instance : HasSite (Scene α ε) α ε := ⟨Scene.site, fun site scene => { scene with site := site }⟩

instance : HasSeeker (Scene α ε) :=
  ⟨Scene.seeker, fun seeker scene => { scene with seeker := seeker }⟩

instance : HasResult (Scene α ε) α :=
  ⟨Scene.result, fun result scene => { scene with result := some result }⟩

instance : HasTasks (Scene α ε) where
  ended := Scene.ended
  dropped := Scene.dropped
  endTask id scene := { scene with ended := id :: scene.ended }
  dropTask id scene := { scene with dropped := id :: scene.dropped }

/-- Do something with the scene at once. -/
def now {ρ : Type} (piece : Scene α ε → ρ × Scene α ε) (next : ρ → Play (Scene α ε)) :
    Play (Scene α ε) :=
  act (fun _ _ scene => piece scene) next

/-- Change the scene and go on. -/
def change (piece : Scene α ε → Scene α ε) (next : Play (Scene α ε)) : Play (Scene α ε) :=
  now (fun scene => ((), piece scene)) fun _ => next

/-! ## Locks -/

/-- Get a lock and keep its hold under a name.  Is its token new among the holds
kept? -/
def acquire (locker : ServiceId) (name key : String) (guard : Lock.Guard) (maxWait : Duration)
    (next : Except Lock.Failure (Lock.Hold × Bool) → Play (Scene α ε)) : Play (Scene α ε) :=
  seek locker (fun settings moment => .acquisition (.start key guard settings maxWait moment)) fun
    | .error failure => next (.error failure)
    | .ok token =>
        act (fun _ now scene =>
          let hold : Lock.Hold :=
            ⟨key, token.getD "", now, (scene.site.locker locker).settings.ttl⟩
          let fresh := scene.holds.values.all fun other => other.token ≠ hold.token
          (.ok (hold, fresh), { scene with holds := scene.holds.insert name hold })) next

/-- Wait until keys are free. -/
def waitFree (locker : ServiceId) (keys : List String) (maxWait : Duration)
    (next : Except Lock.Failure Unit → Play (Scene α ε)) : Play (Scene α ε) :=
  seek locker (fun settings moment => .vigil (.start keys settings maxWait moment)) fun result =>
    next (result.map fun _ => ())

/-- Give a hold back that is kept under a name: was its lease still there? -/
def release (locker : ServiceId) (name : String) (next : Option Bool → Play (Scene α ε)) :
    Play (Scene α ε) :=
  now (fun scene => (scene.holds.get? name, scene)) fun
    | none => next none
    | some hold => makeCall locker (.revoke hold.key hold.token) fun reply =>
        next (some (reply.toOption.getD false))

/-! ## Operations -/

/-- Submit an operation under a name. -/
def submitAs (name : String) (service : ServiceId) (plan : Plan) (maxWait : Option Duration)
    (body : Body (Scene α ε) α ε)
    (next : Except (Operation.Failure ε) Operation.Tracker → Play (Scene α ε)) :
    Play (Scene α ε) :=
  submit service plan maxWait body fun
    | .error failure => next (.error failure)
    | .ok id =>
        now (fun scene =>
          let scene := { scene with
            handles := scene.handles.insert name id
            trackers := scene.trackers.insert name id }
          ((scene.site.operation? id).map Operation.tracker, scene)) fun
        | some tracker => next (.ok tracker)
        | none => .stop

/-- Wait for an operation, which can be waited for once. -/
def waitAs (name : String)
    (next : Option (Except (Operation.Failure ε) α) → Play (Scene α ε)) : Play (Scene α ε) :=
  now (fun scene =>
    (scene.handles.get? name, { scene with handles := scene.handles.erase name })) fun
    | none => next none
    | some id => waitFor id next

/-- Cancel an operation that can still be waited for. -/
def cancelAs (name : String) (next : Option Bool → Play (Scene α ε)) : Play (Scene α ε) :=
  now (fun scene =>
    match scene.handles.get? name with
    | none => (none, scene)
    | some id =>
        let (cancelled, site) := scene.site.cancel id
        (some cancelled, { scene with site := site })) next

/-- Whether an operation that can still be waited for has ended. -/
def finished? (scene : Scene α ε) (name : String) : Option Bool :=
  (scene.handles.get? name).map (isFinished scene)

/-- The states of an operation. -/
def tracker? (scene : Scene α ε) (name : String) : Option Operation.Tracker :=
  ((scene.trackers.get? name).bind scene.site.operation?).map Operation.tracker

/-- Wait until a gate is open. -/
def pass (gate : String) (next : Play (Scene α ε)) : Play (Scene α ε) :=
  awaitThat (fun scene => scene.gates.contains gate) next

/-- A body that never ends. -/
def forever : Play (Scene α ε) := awaitThat (fun _ => false) .stop

/-! ## The pool -/

/-- Hand a task to the pool of the scene: was it taken on?  The task says how it
ends. -/
def spawnAs (name : String) (work : (Ended α → Play (Scene α ε)) → Play (Scene α ε))
    (next : Bool → Play (Scene α ε)) : Play (Scene α ε) :=
  now (fun scene =>
    match scene.workers.spawn? with
    | none => (none, scene)
    | some (worker, workers) =>
        (some worker,
          { scene with workers := workers, joins := scene.joins.insert name worker })) fun
  | none => next false
  | some worker =>
      let finish (ending : Ended α) (scene : Scene α ε) : Scene α ε :=
        { scene with endings := scene.endings.insert worker ending }
      .spawn (some (0, worker))
        (fun stage => { stage with subject := finish .cancelled stage.subject })
        (workerTask (fun change scene => { scene with workers := change scene.workers }) worker
          (work fun ending => change (finish ending) .stop) fun scene => scene)
        (next true)

/-- Wait for a task of the pool, which can be waited for once. -/
def joinAs (name : String) (next : Option (Ended α) → Play (Scene α ε)) : Play (Scene α ε) :=
  now (fun scene => (scene.joins.get? name, { scene with joins := scene.joins.erase name })) fun
    | none => next none
    | some worker =>
        awaitThat (fun scene => scene.endings.contains worker) <|
          now (fun scene => (scene.endings.get? worker, scene)) next

/-- Shut the pool of the scene down; how many tasks were given up? -/
def closePool (grace : Duration) (next : Nat → Play (Scene α ε)) : Play (Scene α ε) :=
  drain Scene.workers (fun change scene => { scene with workers := change scene.workers }) 0
    grace next

end Scene

/-- Answer steps one after the other. -/
def inTurn {X σ ρ : Type} (answer : σ → (ρ → Play X) → Play X) :
    List σ → List ρ → (List ρ → Play X) → Play X
  | [], answers, next => next answers.reverse
  | step :: rest, answers, next =>
      answer step fun result => inTurn answer rest (result :: answers) next

/-- Sleep by the virtual clock. -/
def sleep {X : Type} (duration : Duration) (next : Play X) : Play X :=
  .pause duration (.act fun _ stage => (stage.spend Stage.lull, next))

end Coedit.Rehearsal
