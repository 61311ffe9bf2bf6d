/-!
# Workers

The accounts of a pool of workers: which tasks were handed to it, how many of them
run and how many have run, and whether it still takes new ones.  A drain waits until
no task is outstanding, or gives the outstanding ones up when its grace is over.
-/

namespace Coedit

/-- Which task of a pool. -/
abbrev WorkerId := Nat

/-- Which drain of a pool. -/
abbrev DrainId := Nat

/-- How far a drain has come. -/
inductive Drain where
  /-- Some tasks are outstanding; the last of them to end will tell. -/
  | waiting
  /-- It was told that no task is outstanding, and has not looked yet. -/
  | told
  /-- It is over; so many tasks were given up. -/
  | over (abandoned : Nat)
  deriving DecidableEq, Repr, Inhabited

namespace Drain

/-- A drain that waits is told. -/
def tell : Drain → Drain
  | .waiting => .told
  | drain => drain

/-- A drain that looks how many tasks are outstanding. -/
def look (outstanding : Nat) : Drain → Drain
  | .over abandoned => .over abandoned
  | _ => if outstanding = 0 then .over 0 else .waiting

def isWaiting (drain : Drain) : Bool := drain == .waiting

end Drain

structure Workers where
  accepting : Bool
  /-- How many tasks are running. -/
  active : Nat
  /-- How many tasks were ever taken on. -/
  submitted : Nat
  /-- How many tasks have run, whatever became of them. -/
  completed : Nat
  /-- The tasks that have neither finished nor been given up. -/
  outstanding : List WorkerId
  drains : List Drain
  deriving DecidableEq, Repr, Inhabited

namespace Workers

/-- A pool that has not been given a task. -/
def idle : Workers := ⟨true, 0, 0, 0, [], []⟩

/-- Take a task on, unless the pool is closed.  Tasks are numbered as they come. -/
def spawn? (workers : Workers) : Option (WorkerId × Workers) :=
  if workers.accepting then
    some (workers.submitted, { workers with
      submitted := workers.submitted + 1
      outstanding := workers.outstanding ++ [workers.submitted] })
  else none

/-- A task begins to run. -/
def enter (workers : Workers) : Workers := { workers with active := workers.active + 1 }

/-- A task that has begun to run ends, in whatever way.  If none is outstanding
then, it tells all drains. -/
def leave (workers : Workers) (worker : WorkerId) : Workers :=
  let outstanding := workers.outstanding.filter (· ≠ worker)
  { workers with
    active := workers.active - 1
    completed := workers.completed + 1
    outstanding := outstanding
    drains := if outstanding.isEmpty then workers.drains.map Drain.tell else workers.drains }

def drain (workers : Workers) (id : DrainId) : Drain := workers.drains.getD id (.over 0)

/-- Take on no more tasks, and begin to wait for those outstanding. -/
def close (workers : Workers) : DrainId × Workers :=
  (workers.drains.length, { workers with
    accepting := false
    drains := workers.drains ++ [Drain.waiting.look workers.outstanding.length] })

/-- A drain that was told looks whether it is over. -/
def look (workers : Workers) (id : DrainId) : Workers :=
  { workers with drains := workers.drains.modify id (·.look workers.outstanding.length) }

/-- The grace of a drain is over: what is still outstanding is given up and
counted. -/
def giveUp (workers : Workers) (id : DrainId) : List WorkerId × Workers :=
  (workers.outstanding, { workers with
    outstanding := []
    drains := workers.drains.set id (.over workers.outstanding.length) })

end Workers

end Coedit
