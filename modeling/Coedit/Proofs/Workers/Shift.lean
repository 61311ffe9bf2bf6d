import Coedit.Proofs.Workers
import Mathlib.Data.List.Nodup

/-!
# Shifts

A pool of workers with the tasks that were handed to it and the drains that were begun, each
of which goes its way in single steps.  A task may be aborted at any time, also before it
runs.  A drain closes the pool, asks to be told when no task is outstanding, looks, and waits
if it has to; when its grace is over it takes the outstanding tasks out, one by one, while
others end and other drains do the same.
-/

namespace Coedit

namespace Workers

variable {workers : Workers} {id : DrainId}

/-! ## Steps of a drain -/

/-- Take on no more tasks. -/
def shut (workers : Workers) : Workers :=
  { workers with accepting := false, drains := workers.drains ++ [.waiting] }

/-- Give a task up. -/
def take (workers : Workers) (worker : WorkerId) : Workers :=
  { workers with outstanding := workers.outstanding.filter (· ≠ worker) }

/-- A drain has given up so many tasks and is over. -/
def finish (workers : Workers) (id : DrainId) (abandoned : Nat) : Workers :=
  { workers with drains := workers.drains.set id (.over abandoned) }

theorem modify_last {α : Type} (front : List α) (last : α) (change : α → α) :
    (front ++ [last]).modify front.length change = front ++ [change last] := by
  induction front with
  | nil => rfl
  | cons value front ih => exact congrArg (value :: ·) ih

/-- To close a pool is to shut it and to look. -/
theorem close_eq :
    workers.close = (workers.drains.length, workers.shut.look workers.drains.length) := by
  rw [close, look, shut, modify_last]

theorem foldl_take (given : List WorkerId) :
    given.foldl take workers =
      { workers with outstanding := workers.outstanding.filter (· ∉ given) } := by
  induction given generalizing workers with
  | nil => simp
  | cons worker given ih =>
      rw [List.foldl_cons, ih, take]
      simp [List.filter_filter, Bool.and_comm]

/-- To give all tasks up is to give up each of them. -/
theorem giveUp_eq :
    workers.giveUp id = (workers.outstanding,
      (workers.outstanding.foldl take workers).finish id workers.outstanding.length) := by
  rw [foldl_take, giveUp, finish]
  simp

end Workers

/-- How far a task has come. -/
inductive Shift.Phase where
  /-- It has not begun to run. -/
  | waiting
  /-- It was aborted, and never runs. -/
  | dropped
  | running
  /-- It has run, whatever became of it. -/
  | ended
  deriving DecidableEq

structure Shift.Task where
  phase : Shift.Phase
  aborted : Bool
  deriving DecidableEq

/-- How far a drain has come. -/
inductive Shift.Call where
  /-- The pool is closed. -/
  | closed
  /-- It has asked to be told, perhaps has been told, and has not looked yet. -/
  | armed (told : Bool)
  /-- It has seen that tasks are outstanding, and waits until it is told. -/
  | waiting (told : Bool)
  /-- Its grace is over.  It takes those that it found outstanding, if they still are. -/
  | ending (listed taken : List WorkerId)
  /-- It has returned. -/
  | done (taken : List WorkerId)
  deriving DecidableEq

namespace Shift.Call

/-- The tasks that a drain has given up. -/
def taken : Call → List WorkerId
  | .ending _ taken => taken
  | .done taken => taken
  | _ => []

def isDone : Call → Bool
  | .done _ => true
  | _ => false

/-- Those who have asked are told that no task is outstanding. -/
def tell : Call → Call
  | .armed _ => .armed true
  | .waiting _ => .waiting true
  | call => call

end Shift.Call

/-- A pool, its tasks and its drains, each in the order of their numbers. -/
structure Shift where
  workers : Workers
  tasks : List Shift.Task
  calls : List Shift.Call
  deriving DecidableEq

namespace Shift

/-! ## Steps -/

def idle : Shift := ⟨.idle, [], []⟩

/-- What can happen to a pool. -/
inductive Move where
  | spawn
  /-- A task begins to run. -/
  | enter (worker : WorkerId)
  /-- A task ends, fails or is stopped. -/
  | leave (worker : WorkerId)
  /-- A task is asked to stop by whoever spawned it. -/
  | abort (worker : WorkerId)
  /-- A task that was asked to stop before it ran never runs. -/
  | drop (worker : WorkerId)
  | shut
  /-- A drain asks to be told, at first or because it was told. -/
  | arm (id : DrainId)
  | look (id : DrainId)
  /-- The grace of a drain is over. -/
  | expire (id : DrainId)
  /-- A drain takes the next task that it found outstanding, and asks it to stop, or returns
  since there is none. -/
  | take (id : DrainId)
  deriving DecidableEq

/-- Ask a task to stop. -/
def stop (tasks : List Task) (worker : WorkerId) : List Task :=
  match tasks[worker]? with
  | some task => tasks.set worker { task with aborted := true }
  | none => tasks

/-- The next step of a drain whose grace is over. -/
def takeNext (shift : Shift) (id : DrainId) (listed taken : List WorkerId) : Shift :=
  match listed with
  | [] =>
      { shift with
        workers := shift.workers.finish id taken.length
        calls := shift.calls.set id (.done taken) }
  | worker :: rest =>
      if worker ∈ shift.workers.outstanding then
        { workers := shift.workers.take worker
          tasks := stop shift.tasks worker
          calls := shift.calls.set id (.ending rest (taken ++ [worker])) }
      else { shift with calls := shift.calls.set id (.ending rest taken) }

/-- The shift after a move.  A move that cannot be made does nothing. -/
def after (shift : Shift) : Move → Shift
  | .spawn =>
      match shift.workers.spawn? with
      | none => shift
      | some (_, workers) =>
          { shift with workers, tasks := shift.tasks ++ [⟨.waiting, false⟩] }
  | .enter worker =>
      match shift.tasks[worker]? with
      | some ⟨.waiting, aborted⟩ =>
          { shift with
            workers := shift.workers.enter
            tasks := shift.tasks.set worker ⟨.running, aborted⟩ }
      | _ => shift
  | .leave worker =>
      match shift.tasks[worker]? with
      | some ⟨.running, aborted⟩ =>
          { workers := shift.workers.leave worker
            tasks := shift.tasks.set worker ⟨.ended, aborted⟩
            calls := if (shift.workers.leave worker).outstanding.isEmpty then
                shift.calls.map Call.tell
              else shift.calls }
      | _ => shift
  | .abort worker => { shift with tasks := stop shift.tasks worker }
  | .drop worker =>
      match shift.tasks[worker]? with
      | some ⟨.waiting, true⟩ =>
          { shift with tasks := shift.tasks.set worker ⟨.dropped, true⟩ }
      | _ => shift
  | .shut => { shift with workers := shift.workers.shut, calls := shift.calls ++ [.closed] }
  | .arm id =>
      match shift.calls[id]? with
      | some .closed => { shift with calls := shift.calls.set id (.armed false) }
      | some (.waiting true) => { shift with calls := shift.calls.set id (.armed false) }
      | _ => shift
  | .look id =>
      match shift.calls[id]? with
      | some (.armed told) =>
          { shift with
            workers := shift.workers.look id
            calls := shift.calls.set id
              (if shift.workers.outstanding = [] then .done [] else .waiting told) }
      | _ => shift
  | .expire id =>
      match shift.calls[id]? with
      | some (.armed _) =>
          { shift with calls := shift.calls.set id (.ending shift.workers.outstanding []) }
      | some (.waiting _) =>
          { shift with calls := shift.calls.set id (.ending shift.workers.outstanding []) }
      | _ => shift
  | .take id =>
      match shift.calls[id]? with
      | some (.ending listed taken) => shift.takeNext id listed taken
      | _ => shift

/-- The shifts that can come about. -/
inductive Run : Shift → Prop where
  | start : Run idle
  | step {shift : Shift} (run : Run shift) (move : Move) : Run (shift.after move)

/-- What can become of a shift. -/
inductive Leads (shift : Shift) : Shift → Prop where
  | refl : Leads shift shift
  | step {later : Shift} (leads : Leads shift later) (move : Move) :
      Leads shift (later.after move)

/-! ## Books -/

variable {shift later : Shift} {workers : Workers} {tasks : List Task} {calls : List Call}
  {outstanding taken : List WorkerId} {worker other : WorkerId} {id : DrainId} {task new : Task}
  {call old : Call}

/-- A task in a pool has run, runs, or has not begun to. -/
theorem length_eq (tasks : List Task) : tasks.length =
    tasks.countP (fun task => task.phase = .ended) +
      tasks.countP (fun task => task.phase = .running) +
      tasks.countP (fun task =>
        (task.phase = .waiting ∨ task.phase = .dropped) ∧ task.aborted = false) +
      tasks.countP fun task =>
        (task.phase = .waiting ∨ task.phase = .dropped) ∧ task.aborted = true := by
  induction tasks with
  | nil => rfl
  | cons task tasks ih =>
      obtain ⟨phase, aborted⟩ := task
      rw [List.length_cons, ih]
      cases phase with
      | _ => cases aborted <;> simp <;> omega

/-- The accounts of a pool say how many of its tasks run and how many have run. -/
structure Booked (workers : Workers) (tasks : List Task) : Prop where
  submitted : tasks.length = workers.submitted
  active : workers.active = tasks.countP fun task => task.phase = .running
  completed : workers.completed = tasks.countP fun task => task.phase = .ended
  dropped {task : Task} (mem : task ∈ tasks) (dropped : task.phase = .dropped) :
    task.aborted = true

namespace Booked

theorem spawn (booked : Booked workers tasks) :
    Booked
      { workers with
        submitted := workers.submitted + 1
        outstanding := workers.outstanding ++ [workers.submitted] }
      (tasks ++ [⟨.waiting, false⟩]) where
  submitted := by
    rw [List.length_append, booked.submitted]
    rfl
  active := by
    rw [List.countP_append]
    exact booked.active
  completed := by
    rw [List.countP_append]
    exact booked.completed
  dropped := by
    intro task mem dropped
    rcases List.mem_append.mp mem with before | last
    · exact booked.dropped before dropped
    · cases List.mem_singleton.mp last
      cases dropped

/-- One task goes on. -/
theorem set {after : Workers} {old new : Task} (booked : Booked workers tasks)
    (found : tasks[worker]? = some old) (submitted : after.submitted = workers.submitted)
    (active : after.active = (workers.active - if old.phase = .running then 1 else 0) +
      if new.phase = .running then 1 else 0)
    (completed : after.completed = (workers.completed - if old.phase = .ended then 1 else 0) +
      if new.phase = .ended then 1 else 0)
    (dropped : new.phase = .dropped → new.aborted = true) :
    Booked after (tasks.set worker new) := by
  obtain ⟨bound, here⟩ := List.getElem?_eq_some_iff.mp found
  constructor
  case submitted => rw [List.length_set, submitted, booked.submitted]
  case active =>
    rw [List.countP_set bound, here, active, booked.active]
    simp only [decide_eq_true_iff]
  case completed =>
    rw [List.countP_set bound, here, completed, booked.completed]
    simp only [decide_eq_true_iff]
  case dropped =>
    intro task mem
    rcases List.mem_or_eq_of_mem_set mem with before | rfl
    · exact booked.dropped before
    · exact dropped

theorem stop (booked : Booked workers tasks) (worker : WorkerId) :
    Booked workers (stop tasks worker) := by
  unfold Shift.stop
  split
  · next task found =>
      refine booked.set found rfl ?_ ?_ fun _ => rfl
      · split
        · next runs =>
            have some : 0 < tasks.countP fun task => task.phase = .running :=
              List.countP_pos_iff.mpr ⟨task, List.mem_of_getElem? found, decide_eq_true runs⟩
            rw [booked.active]
            omega
        · rfl
      · split
        · next ends =>
            have some : 0 < tasks.countP fun task => task.phase = .ended :=
              List.countP_pos_iff.mpr ⟨task, List.mem_of_getElem? found, decide_eq_true ends⟩
            rw [booked.completed]
            omega
        · rfl
  · exact booked

/-- The accounts do not depend on what drains do. -/
theorem of_same {after : Workers} (booked : Booked workers tasks)
    (submitted : after.submitted = workers.submitted) (active : after.active = workers.active)
    (completed : after.completed = workers.completed) : Booked after tasks :=
  ⟨booked.submitted.trans submitted.symm, active.trans booked.active,
    completed.trans booked.completed, booked.dropped⟩

end Booked

/-! ## Who keeps which task -/

theorem getElem?_set_of_found {old new : Task} (found : tasks[worker]? = some old) :
    (tasks.set worker new)[other]? = if worker = other then some new else tasks[other]? := by
  obtain ⟨bound, -⟩ := List.getElem?_eq_some_iff.mp found
  rw [List.getElem?_set, if_pos bound]

/-- Who was asked to stop goes on to be so. -/
theorem aborted_set {old new : Task} (found : tasks[worker]? = some old)
    (goesOn : old.aborted = true → new.aborted = true)
    (stopped : ∃ task, tasks[other]? = some task ∧ task.aborted = true) :
    ∃ task, (tasks.set worker new)[other]? = some task ∧ task.aborted = true := by
  obtain ⟨task, found', aborted⟩ := stopped
  rw [getElem?_set_of_found found]
  split
  · next here =>
      subst here
      rw [found] at found'
      cases found'
      exact ⟨new, rfl, goesOn aborted⟩
  · exact ⟨task, found', aborted⟩

/-- A task is outstanding until it has run, unless a drain has taken it.  Each is taken once,
and whichever is taken is asked to stop. -/
structure Kept (outstanding : List WorkerId) (tasks : List Task) (taken : List WorkerId) :
    Prop where
  distinct : outstanding.Nodup
  once : taken.Nodup
  outstanding_iff {worker : WorkerId} : worker ∈ outstanding ↔
    (∃ task, tasks[worker]? = some task ∧ task.phase ≠ .ended) ∧ worker ∉ taken
  aborted {worker : WorkerId} (mem : worker ∈ taken) :
    ∃ task, tasks[worker]? = some task ∧ task.aborted = true

namespace Kept

theorem spawn (kept : Kept outstanding tasks taken) :
    Kept (outstanding ++ [tasks.length]) (tasks ++ [⟨.waiting, false⟩]) taken := by
  have known {worker : WorkerId} {task : Task} (found : tasks[worker]? = some task) :
      (tasks ++ [⟨.waiting, false⟩])[worker]? = some task := by
    obtain ⟨bound, -⟩ := List.getElem?_eq_some_iff.mp found
    rw [List.getElem?_append_left bound, found]
  constructor
  case distinct =>
    refine List.nodup_append.mpr ⟨kept.distinct, List.nodup_singleton _, ?_⟩
    rintro worker mem _ last rfl
    cases List.mem_singleton.mp last
    obtain ⟨⟨task, found, -⟩, -⟩ := kept.outstanding_iff.mp mem
    exact absurd (List.getElem?_eq_some_iff.mp found).1 (Nat.lt_irrefl _)
  case once => exact kept.once
  case outstanding_iff =>
    intro worker
    rw [List.mem_append, List.mem_singleton, kept.outstanding_iff]
    constructor
    · rintro (⟨⟨task, found, runs⟩, stays⟩ | rfl)
      · exact ⟨⟨task, known found, runs⟩, stays⟩
      · refine ⟨⟨⟨.waiting, false⟩, List.getElem?_concat_length, by simp⟩, ?_⟩
        intro mem
        obtain ⟨task, found, -⟩ := kept.aborted mem
        exact absurd (List.getElem?_eq_some_iff.mp found).1 (Nat.lt_irrefl _)
    · rintro ⟨⟨task, found, runs⟩, stays⟩
      by_cases last : worker = tasks.length
      · exact .inr last
      · refine .inl ⟨⟨task, ?_, runs⟩, stays⟩
        obtain ⟨bound, -⟩ := List.getElem?_eq_some_iff.mp found
        rw [List.length_append, List.length_singleton] at bound
        have lower : worker < tasks.length :=
          Nat.lt_of_le_of_ne (Nat.le_of_lt_succ bound) last
        rw [List.getElem?_append_left lower] at found
        exact found
  case aborted =>
    intro worker mem
    obtain ⟨task, found, aborted⟩ := kept.aborted mem
    exact ⟨task, known found, aborted⟩

/-- A task goes on, but does not end. -/
theorem set {old new : Task} (kept : Kept outstanding tasks taken)
    (found : tasks[worker]? = some old) (ends : new.phase = .ended ↔ old.phase = .ended)
    (aborted : old.aborted = true → new.aborted = true) :
    Kept outstanding (tasks.set worker new) taken := by
  refine ⟨kept.distinct, kept.once, ?_, ?_⟩
  · intro other
    rw [kept.outstanding_iff, getElem?_set_of_found found]
    split
    · next here =>
        subst here
        simp only [found, Option.some.injEq, exists_eq_left', ne_eq, ends]
    · exact Iff.rfl
  · intro other mem
    exact aborted_set found aborted (kept.aborted mem)

/-- A task that has run is not outstanding any more. -/
theorem leave {old new : Task} (kept : Kept outstanding tasks taken)
    (found : tasks[worker]? = some old) (ended : new.phase = .ended)
    (aborted : old.aborted = true → new.aborted = true) :
    Kept (outstanding.filter (· ≠ worker)) (tasks.set worker new) taken := by
  refine ⟨kept.distinct.filter _, kept.once, ?_, ?_⟩
  · intro other
    rw [List.mem_filter, decide_eq_true_iff, kept.outstanding_iff, getElem?_set_of_found found]
    split
    · next here => simp [here, ended]
    · next apart => simp [Ne.symm apart]
  · intro other mem
    exact aborted_set found aborted (kept.aborted mem)

theorem stop (kept : Kept outstanding tasks taken) (worker : WorkerId) :
    Kept outstanding (stop tasks worker) taken := by
  unfold Shift.stop
  split
  · next task found => exact kept.set found Iff.rfl fun _ => rfl
  · exact kept

/-- A drain takes an outstanding task. -/
theorem take (kept : Kept outstanding tasks taken) (mem : worker ∈ outstanding) :
    Kept (outstanding.filter (· ≠ worker)) (Shift.stop tasks worker) (worker :: taken) := by
  obtain ⟨⟨task, found, runs⟩, stays⟩ := kept.outstanding_iff.mp mem
  have stopped := kept.stop worker
  refine ⟨kept.distinct.filter _, List.nodup_cons.mpr ⟨stays, kept.once⟩, ?_, ?_⟩
  · intro other
    rw [List.mem_filter, decide_eq_true_iff, stopped.outstanding_iff, List.mem_cons, not_or]
    constructor
    · rintro ⟨⟨running, free⟩, apart⟩
      exact ⟨running, apart, free⟩
    · rintro ⟨running, apart, free⟩
      exact ⟨⟨running, free⟩, apart⟩
  · intro other mem'
    rcases List.mem_cons.mp mem' with rfl | before
    · refine ⟨{ task with aborted := true }, ?_, rfl⟩
      unfold Shift.stop
      rw [found]
      exact (getElem?_set_of_found found).trans (if_pos rfl)
    · exact stopped.aborted before

theorem perm {taken' : List WorkerId} (kept : Kept outstanding tasks taken)
    (same : taken.Perm taken') : Kept outstanding tasks taken' where
  distinct := kept.distinct
  once := same.nodup_iff.mp kept.once
  outstanding_iff := by
    intro worker
    rw [kept.outstanding_iff, same.mem_iff]
  aborted mem := kept.aborted (same.mem_iff.mpr mem)

end Kept

/-! ## What drains know -/

namespace Call

/-- What a drain can rely on: who was told, or has returned, finds nothing outstanding, and
whose grace is over has listed all that is. -/
def Fits (outstanding : List WorkerId) : Call → Prop
  | .closed => True
  | .armed told => told = true → outstanding = []
  | .waiting told => told = true → outstanding = []
  | .ending listed _ => outstanding ⊆ listed
  | .done _ => outstanding = []

/-- How a drain is entered in the accounts. -/
def Shows : Call → Drain → Prop
  | .waiting told, drain => drain = if told then .told else .waiting
  | .done taken, drain => drain = .over taken.length
  | _, drain => ∀ abandoned, drain ≠ .over abandoned

theorem Fits.mono {outstanding' : List WorkerId} (fits : call.Fits outstanding)
    (fewer : outstanding' ⊆ outstanding) : call.Fits outstanding' := by
  have none_left (quiet : outstanding = []) : outstanding' = [] :=
    List.subset_nil.mp (quiet ▸ fewer)
  cases call with
  | closed => trivial
  | armed told => exact fun asked => none_left (fits asked)
  | waiting told => exact fun asked => none_left (fits asked)
  | ending listed taken => exact fun worker mem => fits (fewer mem)
  | done taken => exact none_left fits

/-- Telling a drain shows in the accounts. -/
theorem Shows.tell {drain : Drain} (shows : call.Shows drain) : call.tell.Shows drain.tell := by
  have goesOn (unfinished : ∀ abandoned, drain ≠ .over abandoned) :
      ∀ abandoned, drain.tell ≠ .over abandoned := by
    cases drain with
    | waiting => simp [Drain.tell]
    | told => simp [Drain.tell]
    | _ => exact absurd rfl (unfinished _)
  cases call with
  | closed => exact goesOn shows
  | armed told => exact goesOn shows
  | waiting told =>
      rw [show drain = _ from shows]
      cases told with
      | true => rfl
      | false => rfl
  | ending listed taken => exact goesOn shows
  | done taken =>
      rw [show drain = _ from shows]
      rfl

/-- A drain that has not returned is not over in the accounts. -/
theorem Shows.unfinished {drain : Drain} (shows : call.Shows drain) (goesOn : call.isDone = false)
    (abandoned : Nat) : drain ≠ .over abandoned := by
  cases call with
  | closed => exact shows abandoned
  | armed told => exact shows abandoned
  | waiting told =>
      rw [show drain = _ from shows]
      cases told <;> simp
  | ending listed taken => exact shows abandoned
  | done taken => cases goesOn

end Call

/-- The drains of a pool fit with its accounts. -/
structure Heard (workers : Workers) (calls : List Call) : Prop where
  length : calls.length = workers.drains.length
  shown {id : DrainId} {call : Call} (found : calls[id]? = some call) :
    ∃ drain, workers.drains[id]? = some drain ∧ call.Shows drain
  fits {call : Call} (mem : call ∈ calls) : call.Fits workers.outstanding
  closed (drained : calls ≠ []) : workers.accepting = false

namespace Heard

/-- One drain goes on. -/
theorem set {after : Workers} {new : Call} (heard : Heard workers calls)
    (found : calls[id]? = some old) (length : after.drains.length = workers.drains.length)
    (others : ∀ other, other ≠ id → after.drains[other]? = workers.drains[other]?)
    (shown : ∀ drain, workers.drains[id]? = some drain → old.Shows drain →
      ∃ drain', after.drains[id]? = some drain' ∧ new.Shows drain')
    (fewer : after.outstanding ⊆ workers.outstanding) (fits : new.Fits after.outstanding)
    (closed : after.accepting = workers.accepting) : Heard after (calls.set id new) := by
  refine ⟨?_, ?_, ?_, ?_⟩
  · rw [List.length_set, heard.length, length]
  · intro other call found'
    rw [List.getElem?_set] at found'
    split at found'
    · next here =>
        subst here
        split at found'
        · cases found'
          obtain ⟨drain, here, shows⟩ := heard.shown found
          exact shown drain here shows
        · cases found'
    · next apart =>
        rw [others other (Ne.symm apart)]
        exact heard.shown found'
  · intro call mem
    rcases List.mem_or_eq_of_mem_set mem with before | rfl
    · exact (heard.fits before).mono fewer
    · exact fits
  · intro drained
    rw [closed]
    refine heard.closed ?_
    rintro rfl
    exact drained rfl

/-- A drain goes on that does not touch the pool. -/
theorem restage {new : Call} (heard : Heard workers calls) (found : calls[id]? = some old)
    (shows : ∀ drain, old.Shows drain → new.Shows drain) (fits : new.Fits workers.outstanding) :
    Heard workers (calls.set id new) :=
  heard.set found rfl (fun _ _ => rfl) (fun drain here before => ⟨drain, here, shows drain before⟩)
    (List.Subset.refl _) fits rfl

theorem leave (heard : Heard workers calls) (worker : WorkerId) :
    Heard (workers.leave worker)
      (if (workers.leave worker).outstanding.isEmpty then calls.map Call.tell else calls) := by
  have fewer : (workers.leave worker).outstanding ⊆ workers.outstanding :=
    fun other mem => (Workers.mem_leave.mp mem).1
  split
  · next last =>
      have told : (workers.leave worker).drains = workers.drains.map Drain.tell := if_pos last
      have quiet : (workers.leave worker).outstanding = [] := List.isEmpty_iff.mp last
      refine ⟨?_, ?_, ?_, ?_⟩
      · rw [told, List.length_map, List.length_map, heard.length]
      · intro id call found
        rw [List.getElem?_map, Option.map_eq_some_iff] at found
        obtain ⟨before, found, rfl⟩ := found
        obtain ⟨drain, here, shows⟩ := heard.shown found
        refine ⟨drain.tell, ?_, shows.tell⟩
        rw [told, List.getElem?_map, here, Option.map_some]
      · intro call mem
        obtain ⟨before, known, rfl⟩ := List.mem_map.mp mem
        have fits := (heard.fits known).mono fewer
        rw [quiet] at fits ⊢
        cases before with
        | closed => trivial
        | armed told => exact fun _ => rfl
        | waiting told => exact fun _ => rfl
        | ending listed taken => exact fits
        | done taken => exact fits
      · intro drained
        refine heard.closed ?_
        rintro rfl
        exact drained rfl
  · next more =>
      have same : (workers.leave worker).drains = workers.drains := if_neg more
      refine ⟨?_, ?_, fun mem => (heard.fits mem).mono fewer, heard.closed⟩
      · rw [same, heard.length]
      · rw [same]
        exact heard.shown

theorem shut (heard : Heard workers calls) : Heard workers.shut (calls ++ [.closed]) := by
  refine ⟨?_, ?_, ?_, fun _ => rfl⟩
  · simp [Workers.shut, heard.length]
  · intro id call found
    show ∃ drain, (workers.drains ++ [.waiting])[id]? = some drain ∧ call.Shows drain
    rw [List.getElem?_append] at found ⊢
    rw [← heard.length]
    split at found
    · next known =>
        rw [if_pos known]
        exact heard.shown found
    · next new =>
        rw [if_neg new]
        rw [List.getElem?_singleton] at found ⊢
        split at found
        · next first =>
            cases found
            rw [if_pos first]
            exact ⟨.waiting, rfl, by simp [Call.Shows]⟩
        · cases found
  · intro call mem
    rcases List.mem_append.mp mem with before | last
    · exact heard.fits before
    · cases List.mem_singleton.mp last
      trivial

end Heard

end Shift

end Coedit
