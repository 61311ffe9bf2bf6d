import Coedit.Table
import Coedit.Time

/-!
# Cooperative tasks under a virtual clock

Tasks that share a world and take turns.  A task runs until it has to wait; time
stands still while anyone can run and then jumps to the next moment somebody waits
for.  Who comes next is fixed: the tasks in the order in which they became able to
run, and the main task when no other can, except that a jump of the clock that
wakes the main task lets it go first.
-/

namespace Coedit

/-- What a task has still to do in a world `W`.  Tasks that others speak of have a
name in `κ`. -/
inductive Activity (κ W : Type) where
  | stop
  /-- Change the world in one go, and go on as the result says. -/
  | act (piece : Instant → W → W × Activity κ W)
  /-- Let everyone else run who can. -/
  | yield (next : Activity κ W)
  | pause (duration : Duration) (next : Activity κ W)
  /-- Wait until the world is as wanted, or until patience is over. -/
  | await (ready : W → Bool) (patience : Option Duration) (next : Activity κ W)
  /-- Start another task.  `dropped` is what happens if it is cancelled. -/
  | spawn (name : Option κ) (dropped : W → W) (child next : Activity κ W)
  /-- Cancel tasks; they end when it is their turn. -/
  | cancel (names : List κ) (next : Activity κ W)
  /-- Again and again do what the round says, until it says nothing. -/
  | repeated (round : W → Option (Activity κ W)) (next : Activity κ W)
  /-- Do something that leaves a task to do if it is cancelled half-way. -/
  | guarded (cleanup : W → W × Activity κ W) (inside next : Activity κ W)

instance {κ W : Type} : Inhabited (Activity κ W) := ⟨.stop⟩

namespace Schedule

variable {κ W : Type}

/-- What is on the stack of a task. -/
inductive Frame (κ W : Type) where
  | go (activity : Activity κ W)
  /-- To be done only if the task is cancelled while this is on its stack. -/
  | cleanup (action : W → W × Activity κ W)

structure Task (κ W : Type) where
  stack : List (Frame κ W)
  dropped : W → W
  cancelled : Bool

/-- A task that waits for a moment.  Tasks that wait for the same one are woken in
the order of `serial`. -/
structure Timer where
  moment : Instant
  serial : Nat
  task : Nat

end Schedule

/-- All tasks and the world they share.  Task 0 is the main task. -/
structure Schedule (κ W : Type) where
  world : W
  now : Instant
  tasks : Table Nat (Schedule.Task κ W)
  names : Table κ Nat
  nextTask : Nat
  nextSerial : Nat
  current : Option Nat
  /-- The tasks that can run, without the main task. -/
  ready : List Nat
  mainReady : Bool
  timers : List Schedule.Timer
  waiting : List (Nat × (W → Bool))

namespace Schedule

variable {κ W : Type} [DecidableEq κ]

def mainTask : Nat := 0

/-- A main task about to begin. -/
def start (world : W) (activity : Activity κ W) : Schedule κ W where
  world := world
  now := ⟨0⟩
  tasks := (Table.empty : Table Nat (Task κ W)).insert mainTask
    ⟨[.go activity], fun world => world, false⟩
  names := .empty
  nextTask := 1
  nextSerial := 0
  current := some mainTask
  ready := []
  mainReady := false
  timers := []
  waiting := []

/-- Whether the main task has ended. -/
def isOver (schedule : Schedule κ W) : Bool := !schedule.tasks.contains mainTask

/-- A task can run. -/
def wake (schedule : Schedule κ W) (task : Nat) : Schedule κ W :=
  let schedule := { schedule with
    timers := schedule.timers.filter fun timer => timer.task ≠ task
    waiting := schedule.waiting.filter fun entry => entry.1 ≠ task }
  if task = mainTask then { schedule with mainReady := true }
  else if schedule.ready.contains task then schedule
  else { schedule with ready := schedule.ready ++ [task] }

/-- The tasks whose wait is over in this world can run. -/
def wakeWaiting (schedule : Schedule κ W) : Schedule κ W :=
  schedule.waiting.foldl
    (fun schedule entry => if entry.2 schedule.world then schedule.wake entry.1 else schedule)
    schedule

/-- A moment as the clock can show it: whole milliseconds, rounded up. -/
def tick (moment : Instant) : Instant := ⟨(moment.nanos + 999999) / 1000000 * 1000000⟩

/-- Wake a task at the end of a duration. -/
def setTimer (schedule : Schedule κ W) (task : Nat) (duration : Duration) : Schedule κ W :=
  { schedule with
    timers := schedule.timers ++
      [⟨tick (schedule.now.later duration), schedule.nextSerial, task⟩]
    nextSerial := schedule.nextSerial + 1 }

/-- Give a task another stack. -/
def setStack (schedule : Schedule κ W) (task : Nat) (stack : List (Frame κ W)) : Schedule κ W :=
  { schedule with tasks := schedule.tasks.modify task fun entry => { entry with stack := stack } }

/-- Add a task that can run. -/
def add (schedule : Schedule κ W) (name : Option κ) (dropped : W → W) (activity : Activity κ W) :
    Schedule κ W :=
  let id := schedule.nextTask
  { schedule with
    tasks := schedule.tasks.insert id ⟨[.go activity], dropped, false⟩
    names := match name with
      | some name => schedule.names.insert name id
      | none => schedule.names
    nextTask := id + 1
    ready := schedule.ready ++ [id] }

/-- Mark a task as cancelled; it can run, so that it can end. -/
def cancelTask (schedule : Schedule κ W) (name : κ) : Schedule κ W :=
  match schedule.names.get? name with
  | none => schedule
  | some task =>
      if schedule.tasks.contains task then
        wake { schedule with tasks := schedule.tasks.modify task fun entry =>
          { entry with cancelled := true } } task
      else schedule

/-- End a cancelled task: what it has left to do, innermost first, and then that
it was dropped. -/
def drop (schedule : Schedule κ W) (id : Nat) (task : Task κ W) : Schedule κ W :=
  let cleaned := task.stack.foldl
    (fun schedule frame =>
      match frame with
      | .go _ => schedule
      | .cleanup action =>
          let (world, left) := action schedule.world
          let schedule := { schedule with world := world }
          match left with
          | .stop => schedule
          | activity => schedule.add none (fun world => world) activity)
    schedule
  wakeWaiting { cleaned with
    world := task.dropped cleaned.world
    tasks := cleaned.tasks.erase id
    current := none }

/-- Suspend the running task. -/
def suspend (schedule : Schedule κ W) : Schedule κ W := { schedule with current := none }

/-- Do the next thing of the running task. -/
def advance (schedule : Schedule κ W) (id : Nat) (task : Task κ W) : Schedule κ W :=
  match task.stack with
  | [] => wakeWaiting { schedule with tasks := schedule.tasks.erase id, current := none }
  | .cleanup _ :: rest => schedule.setStack id rest
  | .go activity :: rest =>
      match activity with
      | .stop => schedule.setStack id rest
      | .act piece =>
          let (world, next) := piece schedule.now schedule.world
          wakeWaiting (setStack { schedule with world := world } id (.go next :: rest))
      | .yield next =>
          ((schedule.setStack id (.go next :: rest)).wake id).suspend
      | .pause duration next =>
          let schedule := schedule.setStack id (.go next :: rest)
          if duration.isZero then schedule else (schedule.setTimer id duration).suspend
      | .await ready patience next =>
          let schedule := schedule.setStack id (.go next :: rest)
          if ready schedule.world then schedule
          else
            match patience with
            | none =>
                suspend { schedule with waiting := schedule.waiting ++ [(id, ready)] }
            | some duration =>
                if duration.isZero then schedule
                else
                  suspend (setTimer
                    { schedule with waiting := schedule.waiting ++ [(id, ready)] } id duration)
      | .spawn name dropped child next =>
          (schedule.setStack id (.go next :: rest)).add name dropped child
      | .cancel names next =>
          names.foldl cancelTask (schedule.setStack id (.go next :: rest))
      | .repeated round next =>
          match round schedule.world with
          | none => schedule.setStack id (.go next :: rest)
          | some once => schedule.setStack id (.go once :: .go activity :: rest)
      | .guarded cleanup inside next =>
          schedule.setStack id (.go inside :: .cleanup cleanup :: .go next :: rest)

/-- The earliest moment a task waits for. -/
def nextMoment? (schedule : Schedule κ W) : Option Instant :=
  schedule.timers.foldl
    (fun best timer =>
      match best with
      | some moment => if timer.moment < moment then some timer.moment else best
      | none => some timer.moment)
    none

/-- Let the clock jump to the next moment and wake who waits for it. -/
def jump (schedule : Schedule κ W) (moment : Instant) : Schedule κ W :=
  let now : Instant := if schedule.now < moment then moment else schedule.now
  let due := schedule.timers.filter fun timer => timer.moment ≤ now
  let woken := due.foldl (fun schedule timer => schedule.wake timer.task)
    { schedule with now := now }
  if woken.mainReady then { woken with mainReady := false, current := some mainTask } else woken

/-- Choose who runs next. -/
def choose (schedule : Schedule κ W) : Schedule κ W :=
  match schedule.ready with
  | id :: rest => { schedule with ready := rest, current := some id }
  | [] =>
      if schedule.mainReady then { schedule with mainReady := false, current := some mainTask }
      else
        match schedule.nextMoment? with
        | some moment => schedule.jump moment
        | none => schedule

/-- One step of whoever runs, or the choice of who runs next. -/
def step (schedule : Schedule κ W) : Schedule κ W :=
  match schedule.current with
  | none => schedule.choose
  | some id =>
      match schedule.tasks.get? id with
      | none => schedule.suspend
      | some task =>
          if task.cancelled then schedule.drop id task else schedule.advance id task

/-- Whether nobody can ever run again. -/
def isStuck (schedule : Schedule κ W) : Bool :=
  schedule.current.isNone && schedule.ready.isEmpty && !schedule.mainReady &&
    schedule.timers.isEmpty

/-- Run until the main task has ended, at most `fuel` steps. -/
def run : (fuel : Nat) → Schedule κ W → Schedule κ W
  | 0, schedule => schedule
  | fuel + 1, schedule =>
      if schedule.isOver || schedule.isStuck then schedule else run fuel schedule.step

end Schedule

end Coedit
