import Coedit.Proofs.Workers.Shift

/-!
# Draining

Every task of a pool is accounted for.  Until it has run it is outstanding, unless a drain
has given it up, which no other drain does then; and when a drain has returned, every task
has run or was given up by one of them, and none is taken on any more.
-/

namespace Coedit

namespace Shift

variable {shift later : Shift} {workers : Workers} {tasks : List Task} {calls : List Call}
  {taken : List WorkerId} {worker : WorkerId} {id : DrainId} {call old : Call}

/-! ## Whom drains have given up -/

/-- Whether a drain has given a task up. -/
def GivesUp (shift : Shift) (id : DrainId) (worker : WorkerId) : Prop :=
  ∃ call, shift.calls[id]? = some call ∧ worker ∈ call.taken

/-- The tasks that drains have given up. -/
def givenUp (calls : List Call) : List WorkerId := calls.flatMap Call.taken

/-- One of the drains stands between the others. -/
theorem exists_between (found : calls[id]? = some old) : ∃ front back,
    calls = front ++ old :: back ∧ ∀ new, calls.set id new = front ++ new :: back := by
  obtain ⟨bound, here⟩ := List.getElem?_eq_some_iff.mp found
  refine ⟨calls.take id, calls.drop (id + 1), ?_, ?_⟩
  · rw [← here, List.getElem_cons_drop, List.take_append_drop]
  · intro new
    rw [List.set_eq_take_append_cons_drop, if_pos bound]

theorem givenUp_set {new : Call} (found : calls[id]? = some old) (same : new.taken = old.taken) :
    givenUp (calls.set id new) = givenUp calls := by
  obtain ⟨front, back, whole, replaced⟩ := exists_between found
  rw [replaced, whole]
  simp only [givenUp, List.flatMap_append, List.flatMap_cons, same]

/-- A drain gives one task up. -/
theorem givenUp_take {new : Call} (found : calls[id]? = some old)
    (more : new.taken = old.taken ++ [worker]) :
    (worker :: givenUp calls).Perm (givenUp (calls.set id new)) := by
  obtain ⟨front, back, whole, replaced⟩ := exists_between found
  rw [replaced, whole]
  simp only [givenUp, List.flatMap_append, List.flatMap_cons, more, ← List.append_assoc]
  rw [List.append_assoc _ [worker], List.singleton_append]
  exact List.perm_middle.symm

theorem givenUp_tell (calls : List Call) : givenUp (calls.map Call.tell) = givenUp calls := by
  have same (call : Call) : call.tell.taken = call.taken := by
    cases call with
    | _ => rfl
  simp only [givenUp, List.flatMap_map, same]

theorem mem_givenUp : worker ∈ givenUp shift.calls ↔ ∃ id, shift.GivesUp id worker := by
  unfold givenUp
  rw [List.mem_flatMap]
  constructor
  · rintro ⟨call, mem, gives⟩
    obtain ⟨id, found⟩ := List.mem_iff_getElem?.mp mem
    exact ⟨id, call, found, gives⟩
  · rintro ⟨id, call, found, gives⟩
    exact ⟨call, List.mem_of_getElem? found, gives⟩

/-- Where each task is given up once, one drain has done so. -/
theorem sole_of_nodup (once : (givenUp calls).Nodup) {id' : DrainId} {call' : Call}
    (found : calls[id]? = some call) (found' : calls[id']? = some call')
    (gives : worker ∈ call.taken) (gives' : worker ∈ call'.taken) : id = id' := by
  obtain ⟨-, apart⟩ := List.nodup_flatMap.mp once
  rw [List.pairwise_iff_getElem] at apart
  obtain ⟨bound, rfl⟩ := List.getElem?_eq_some_iff.mp found
  obtain ⟨bound', rfl⟩ := List.getElem?_eq_some_iff.mp found'
  rcases Nat.lt_trichotomy id id' with less | same | more
  · exact absurd gives' (apart id id' bound bound' less gives)
  · exact same
  · exact absurd gives (apart id' id bound' bound more gives')

/-! ## What holds of every shift -/

structure Sound (shift : Shift) : Prop where
  booked : Booked shift.workers shift.tasks
  kept : Kept shift.workers.outstanding shift.tasks (givenUp shift.calls)
  heard : Heard shift.workers shift.calls

theorem sound_idle : idle.Sound where
  booked := ⟨rfl, rfl, rfl, fun mem => (List.not_mem_nil mem).elim⟩
  kept := ⟨.nil, .nil, by simp [idle, Workers.idle], fun mem => (List.not_mem_nil mem).elim⟩
  heard := ⟨rfl, fun found => (by cases found), fun mem => (List.not_mem_nil mem).elim,
    fun drained => (drained rfl).elim⟩

/-- A pool that takes a task on has not begun to drain. -/
theorem Heard.undrained (heard : Heard workers calls) (accepting : workers.accepting = true) :
    calls = [] := by
  by_contra drained
  rw [heard.closed drained] at accepting
  cases accepting

theorem Sound.spawn (sound : shift.Sound) {after : Workers}
    (spawned : shift.workers.spawn? = some (worker, after)) :
    Sound { shift with workers := after, tasks := shift.tasks ++ [⟨.waiting, false⟩] } := by
  obtain ⟨accepting, -, rfl⟩ := Workers.spawn?_eq_some spawned
  have undrained := sound.heard.undrained accepting
  refine ⟨sound.booked.spawn, ?_, ?_⟩
  · rw [← sound.booked.submitted]
    exact sound.kept.spawn
  · refine ⟨sound.heard.length, sound.heard.shown, ?_, sound.heard.closed⟩
    intro call mem
    rw [undrained] at mem
    cases mem

/-- One drain goes on without taking a task. -/
theorem Sound.restage (sound : shift.Sound) {new : Call} (found : shift.calls[id]? = some old)
    (same : new.taken = old.taken) (shows : ∀ drain, old.Shows drain → new.Shows drain)
    (fits : new.Fits shift.workers.outstanding) :
    Sound { shift with calls := shift.calls.set id new } where
  booked := sound.booked
  kept := by
    rw [givenUp_set found same]
    exact sound.kept
  heard := sound.heard.restage found shows fits

theorem Sound.look (sound : shift.Sound) {told : Bool}
    (found : shift.calls[id]? = some (.armed told)) :
    Sound
      { shift with
        workers := shift.workers.look id
        calls := shift.calls.set id
          (if shift.workers.outstanding = [] then .done [] else .waiting told) } where
  booked := sound.booked.of_same rfl rfl rfl
  kept := by
    rw [givenUp_set found]
    · exact sound.kept
    · split <;> rfl
  heard := by
    have fits : Call.Fits shift.workers.outstanding (.armed told) :=
      sound.heard.fits (List.mem_of_getElem? found)
    refine sound.heard.set found (List.length_modify ..) ?_ ?_ (List.Subset.refl _) ?_ rfl
    · intro other apart
      show (shift.workers.drains.modify id _)[other]? = _
      rw [List.getElem?_modify_ne _ _ (Ne.symm apart)]
    · intro drain here shows
      refine ⟨drain.look shift.workers.outstanding.length, ?_, ?_⟩
      · show (shift.workers.drains.modify id _)[id]? = _
        rw [List.getElem?_modify_eq, here]
        rfl
      · have looked : drain.look shift.workers.outstanding.length =
            if shift.workers.outstanding.length = 0 then .over 0 else .waiting := by
          cases drain with
          | waiting => rfl
          | told => rfl
          | _ => exact absurd rfl (shows _)
        rw [looked]
        by_cases quiet : shift.workers.outstanding = []
        · rw [if_pos quiet, if_pos (List.length_eq_zero_iff.mpr quiet)]
          rfl
        · rw [if_neg quiet, if_neg fun none => quiet (List.length_eq_zero_iff.mp none)]
          cases told with
          | true => exact absurd (fits rfl) quiet
          | false => rfl
    · show Call.Fits shift.workers.outstanding _
      split
      · next quiet => exact quiet
      · exact fits

/-- The next task that a drain gives up is nobody else's any more. -/
theorem Sound.takeNext (sound : shift.Sound) {listed taken : List WorkerId}
    (found : shift.calls[id]? = some (.ending listed taken)) :
    (shift.takeNext id listed taken).Sound := by
  have fits : Call.Fits shift.workers.outstanding (.ending listed taken) :=
    sound.heard.fits (List.mem_of_getElem? found)
  cases listed with
  | nil =>
      have quiet : shift.workers.outstanding = [] := List.subset_nil.mp fits
      refine ⟨sound.booked.of_same rfl rfl rfl, ?_, ?_⟩
      · have same : givenUp (shift.calls.set id (.done taken)) = givenUp shift.calls :=
          givenUp_set found rfl
        exact same.symm ▸ sound.kept
      · refine sound.heard.set found (List.length_set ..) ?_ ?_ (List.Subset.refl _) quiet rfl
        · intro other apart
          exact List.getElem?_set_ne (Ne.symm apart)
        · intro drain here _
          obtain ⟨bound, -⟩ := List.getElem?_eq_some_iff.mp here
          exact ⟨.over taken.length, List.getElem?_set_self bound, rfl⟩
  | cons worker rest =>
      simp only [Shift.takeNext]
      split
      · next mem =>
          refine ⟨(sound.booked.stop worker).of_same rfl rfl rfl, ?_, ?_⟩
          · exact (sound.kept.take mem).perm (givenUp_take found rfl)
          · refine sound.heard.set found rfl (fun _ _ => rfl)
              (fun drain here shows => ⟨drain, here, shows⟩) (List.filter_subset_self _) ?_ rfl
            intro other mem
            obtain ⟨before, apart⟩ := List.mem_filter.mp mem
            exact (List.mem_cons.mp (fits before)).resolve_left (of_decide_eq_true apart)
      · next gone =>
          refine sound.restage found rfl (fun _ shows => shows) ?_
          intro other mem
          refine (List.mem_cons.mp (fits mem)).resolve_left ?_
          rintro rfl
          exact gone mem

/-- A task that begins runs. -/
theorem Sound.enter (sound : shift.Sound) {aborted : Bool}
    (found : shift.tasks[worker]? = some ⟨.waiting, aborted⟩) :
    Sound
      { shift with
        workers := shift.workers.enter
        tasks := shift.tasks.set worker ⟨.running, aborted⟩ } where
  booked := sound.booked.set found rfl (by simp [Workers.enter]) (by simp [Workers.enter])
    (by simp)
  kept := sound.kept.set found (by simp) id
  heard := ⟨sound.heard.length, sound.heard.shown, sound.heard.fits, sound.heard.closed⟩

/-- A task that has run is not outstanding any more. -/
theorem Sound.leave (sound : shift.Sound) {aborted : Bool}
    (found : shift.tasks[worker]? = some ⟨.running, aborted⟩) :
    Sound
      { workers := shift.workers.leave worker
        tasks := shift.tasks.set worker ⟨.ended, aborted⟩
        calls := if (shift.workers.leave worker).outstanding.isEmpty then
          shift.calls.map Call.tell else shift.calls } where
  booked := sound.booked.set found rfl (by simp [Workers.leave]) (by simp [Workers.leave])
    (by simp)
  kept := by
    have kept : Kept (shift.workers.outstanding.filter (· ≠ worker))
        (shift.tasks.set worker ⟨.ended, aborted⟩) (givenUp shift.calls) :=
      sound.kept.leave found rfl id
    dsimp only
    split
    · rw [givenUp_tell]
      exact kept
    · exact kept
  heard := sound.heard.leave worker

/-- Every move keeps the books. -/
theorem Sound.after (sound : shift.Sound) (move : Move) : (shift.after move).Sound := by
  cases move with
  | spawn =>
      simp only [Shift.after]
      split
      · exact sound
      · next spawned => exact sound.spawn spawned
  | enter worker =>
      simp only [Shift.after]
      split
      · next aborted found => exact sound.enter found
      · exact sound
  | leave worker =>
      simp only [Shift.after]
      split
      · next aborted found => exact sound.leave found
      · exact sound
  | abort worker =>
      exact ⟨sound.booked.stop worker, sound.kept.stop worker, sound.heard⟩
  | drop worker =>
      simp only [Shift.after]
      split
      · next found =>
          refine ⟨?_, ?_, sound.heard⟩
          · exact sound.booked.set found rfl (by simp) (by simp) (by simp)
          · exact sound.kept.set found (by simp) id
      · exact sound
  | shut =>
      refine ⟨sound.booked.of_same rfl rfl rfl, ?_, sound.heard.shut⟩
      have same : givenUp (shift.calls ++ [.closed]) = givenUp shift.calls := by
        simp [givenUp, Call.taken]
      exact same.symm ▸ sound.kept
  | arm id =>
      simp only [Shift.after]
      split
      · next found =>
          exact sound.restage found rfl (fun _ shows => shows) (by simp [Call.Fits])
      · next found =>
          refine sound.restage found rfl ?_ (by simp [Call.Fits])
          intro drain shows
          exact shows.unfinished rfl
      · exact sound
  | look id =>
      simp only [Shift.after]
      split
      · next told found => exact sound.look found
      · exact sound
  | expire id =>
      simp only [Shift.after]
      split
      · next told found =>
          exact sound.restage found rfl (fun _ shows => shows) (List.Subset.refl _)
      · next told found =>
          refine sound.restage found rfl ?_ (List.Subset.refl _)
          intro drain shows
          exact shows.unfinished rfl
      · exact sound
  | take id =>
      simp only [Shift.after]
      split
      · next listed taken found => exact sound.takeNext found
      · exact sound

theorem Run.sound (run : Run shift) : shift.Sound := by
  induction run with
  | start => exact sound_idle
  | step run move ih => exact ih.after move

theorem Run.leads (run : Run shift) (leads : shift.Leads later) : Run later := by
  induction leads with
  | refl => exact run
  | step leads move ih => exact ih.step move

/-! ## Alone -/

/-- A drain that begins with nobody else about closes the pool as in one step. -/
theorem Sound.close_alone (sound : shift.Sound) :
    (((shift.after .shut).after (.arm shift.calls.length)).after
      (.look shift.calls.length)).workers = shift.workers.close.2 := by
  have shut : shift.after .shut =
      { shift with workers := shift.workers.shut, calls := shift.calls ++ [.closed] } := rfl
  have last : (shift.calls ++ [Call.closed])[shift.calls.length]? = some .closed :=
    List.getElem?_concat_length
  have armed : ((shift.calls ++ [Call.closed]).set shift.calls.length (.armed false))[
      shift.calls.length]? = some (.armed false) :=
    List.getElem?_set_self (List.getElem?_eq_some_iff.mp last).1
  rw [shut]
  simp only [Shift.after, last, armed, Workers.close_eq]
  rw [sound.heard.length]

theorem takes_alone {listed : List WorkerId} (distinct : listed.Nodup)
    (still : listed ⊆ shift.workers.outstanding)
    (found : shift.calls[id]? = some (.ending listed taken)) :
    ((List.replicate (listed.length + 1) (.take id)).foldl Shift.after shift).workers =
      (listed.foldl Workers.take shift.workers).finish id (taken.length + listed.length) := by
  induction listed generalizing shift taken with
  | nil =>
      rw [List.length_nil, List.replicate_succ, List.foldl_cons]
      simp only [Shift.after, found]
      rfl
  | cons worker rest ih =>
      obtain ⟨fresh, distinct⟩ := List.nodup_cons.mp distinct
      have takes : shift.after (.take id) =
          { workers := shift.workers.take worker
            tasks := stop shift.tasks worker
            calls := shift.calls.set id (.ending rest (taken ++ [worker])) } := by
        simp only [Shift.after, found, takeNext, if_pos (still List.mem_cons_self)]
      rw [List.length_cons, List.replicate_succ, List.foldl_cons, takes, List.foldl_cons,
        ih distinct ?_ (List.getElem?_set_self (List.getElem?_eq_some_iff.mp found).1)]
      · rw [List.length_append, List.length_singleton, Nat.add_assoc, Nat.add_comm 1]
      · intro other mem
        refine List.mem_filter.mpr ⟨still (List.mem_cons_of_mem _ mem), decide_eq_true ?_⟩
        rintro rfl
        exact fresh mem

/-- A drain whose grace is over gives up all outstanding tasks as in one step, if nobody else
is about. -/
theorem Sound.giveUp_alone (sound : shift.Sound) {told : Bool}
    (waits : shift.calls[id]? = some (.waiting told)) :
    ((List.replicate (shift.workers.outstanding.length + 1) (.take id)).foldl Shift.after
      (shift.after (.expire id))).workers = (shift.workers.giveUp id).2 := by
  have expired : shift.after (.expire id) =
      { shift with calls := shift.calls.set id (.ending shift.workers.outstanding []) } := by
    simp only [Shift.after, waits]
  have listed : (shift.after (.expire id)).calls[id]? =
      some (.ending shift.workers.outstanding []) := by
    rw [expired]
    exact List.getElem?_set_self (List.getElem?_eq_some_iff.mp waits).1
  have still : shift.workers.outstanding ⊆ (shift.after (.expire id)).workers.outstanding := by
    rw [expired]
    exact List.Subset.refl _
  rw [takes_alone sound.kept.distinct still listed, Workers.giveUp_eq, List.length_nil,
    Nat.zero_add, expired]

/-! ## What a drain leaves behind -/

/-- What becomes of a drain: it forgets nobody whom it has given up, and once it has returned
it does nothing more. -/
structure Call.Onward (call next : Call) : Prop where
  returned (finished : call.isDone = true) : next = call
  taken : call.taken ⊆ next.taken

theorem Call.Onward.refl (call : Call) : call.Onward call :=
  ⟨fun _ => rfl, List.Subset.refl _⟩

theorem onward_set {id' : DrainId} {new : Call} (found : calls[id']? = some old)
    (goesOn : old.isDone = false) (keeps : old.taken ⊆ new.taken)
    (here : calls[id]? = some call) :
    ∃ next, (calls.set id' new)[id]? = some next ∧ call.Onward next := by
  by_cases same : id' = id
  · subst same
    rw [found] at here
    cases here
    obtain ⟨bound, -⟩ := List.getElem?_eq_some_iff.mp found
    refine ⟨new, List.getElem?_set_self bound, ?_, keeps⟩
    intro finished
    rw [goesOn] at finished
    cases finished
  · exact ⟨call, (List.getElem?_set_ne same).trans here, .refl call⟩

theorem onward_after (here : shift.calls[id]? = some call) (move : Move) :
    ∃ next, (shift.after move).calls[id]? = some next ∧ call.Onward next := by
  have still : ∃ next, shift.calls[id]? = some next ∧ call.Onward next :=
    ⟨call, here, .refl call⟩
  cases move with
  | spawn | enter worker | drop worker =>
      simp only [Shift.after]
      split
      · exact still
      · exact still
  | leave worker =>
      simp only [Shift.after]
      split
      · dsimp only
        split
        · refine ⟨call.tell, ?_, ?_⟩
          · rw [List.getElem?_map, here]
            rfl
          · cases call with
            | closed | ending listed taken | done taken => exact .refl _
            | armed told | waiting told =>
                exact ⟨fun finished => (by cases finished), List.Subset.refl _⟩
        · exact still
      · exact still
  | abort worker => exact still
  | shut =>
      obtain ⟨bound, -⟩ := List.getElem?_eq_some_iff.mp here
      exact ⟨call, (List.getElem?_append_left bound).trans here, .refl call⟩
  | arm id' | expire id' =>
      simp only [Shift.after]
      split
      · next found => exact onward_set found rfl (List.nil_subset _) here
      · next found => exact onward_set found rfl (List.nil_subset _) here
      · exact still
  | look id' =>
      simp only [Shift.after]
      split
      · next found => exact onward_set found rfl (List.nil_subset _) here
      · exact still
  | take id' =>
      simp only [Shift.after]
      split
      · next listed taken found =>
          cases listed with
          | nil => exact onward_set found rfl (List.Subset.refl _) here
          | cons worker rest =>
              simp only [Shift.takeNext]
              split
              · exact onward_set found rfl (List.subset_append_left _ _) here
              · exact onward_set found rfl (List.Subset.refl _) here
      · exact still

theorem onward_leads (here : shift.calls[id]? = some call) (leads : shift.Leads later) :
    ∃ next, later.calls[id]? = some next ∧ call.Onward next := by
  induction leads with
  | refl => exact ⟨call, here, .refl call⟩
  | step leads move ih =>
      obtain ⟨next, found, onward⟩ := ih
      obtain ⟨last, found', onward'⟩ := onward_after found move
      refine ⟨last, found', ?_, fun worker mem => onward'.taken (onward.taken mem)⟩
      intro finished
      cases onward.returned finished
      exact onward'.returned finished

/-- A drain that has returned stays as it is. -/
theorem done_leads (finished : shift.calls[id]? = some (.done taken))
    (leads : shift.Leads later) : later.calls[id]? = some (.done taken) := by
  obtain ⟨next, found, onward⟩ := onward_leads finished leads
  rw [onward.returned rfl] at found
  exact found

/-- Whether a pool is closed and has nothing outstanding, and no drain waits to be told. -/
structure Drained (shift : Shift) : Prop where
  closed : shift.workers.accepting = false
  quiet : shift.workers.outstanding = []
  told {call : Call} (mem : call ∈ shift.calls) : call ≠ .waiting false

/-- A task that ends tells all drains that wait, if nothing is outstanding then. -/
theorem told_leave (quiet : workers.outstanding = [])
    (mem : call ∈ if workers.outstanding.isEmpty then calls.map Call.tell else calls) :
    call ≠ .waiting false := by
  rw [if_pos (List.isEmpty_iff.mpr quiet)] at mem
  obtain ⟨before, -, rfl⟩ := List.mem_map.mp mem
  cases before with
  | _ => simp [Call.tell]

theorem Drained.after (drained : shift.Drained) (move : Move) : (shift.after move).Drained := by
  have onward {id : DrainId} {new : Call} (other : new ≠ .waiting false) {call : Call}
      (mem : call ∈ shift.calls.set id new) : call ≠ .waiting false := by
    rcases List.mem_or_eq_of_mem_set mem with before | rfl
    · exact drained.told before
    · exact other
  cases move with
  | spawn =>
      have refuses : shift.workers.spawn? = none := by
        rw [Workers.spawn?, drained.closed]
        rfl
      simp only [Shift.after, refuses]
      exact drained
  | enter worker =>
      simp only [Shift.after]
      split
      · exact ⟨drained.closed, drained.quiet, drained.told⟩
      · exact drained
  | leave worker =>
      simp only [Shift.after]
      split
      · have quiet : (shift.workers.leave worker).outstanding = [] := by
          simp [Workers.leave, drained.quiet]
        exact ⟨drained.closed, quiet, told_leave quiet⟩
      · exact drained
  | abort worker => exact ⟨drained.closed, drained.quiet, drained.told⟩
  | drop worker =>
      simp only [Shift.after]
      split
      · exact ⟨drained.closed, drained.quiet, drained.told⟩
      · exact drained
  | shut =>
      refine ⟨rfl, drained.quiet, ?_⟩
      intro call mem
      rcases List.mem_append.mp mem with before | last
      · exact drained.told before
      · cases List.mem_singleton.mp last
        simp
  | arm id =>
      simp only [Shift.after]
      split
      · exact ⟨drained.closed, drained.quiet, onward (by simp)⟩
      · exact ⟨drained.closed, drained.quiet, onward (by simp)⟩
      · exact drained
  | look id =>
      simp only [Shift.after]
      split
      · refine ⟨drained.closed, drained.quiet, onward ?_⟩
        rw [if_pos drained.quiet]
        simp
      · exact drained
  | expire id =>
      simp only [Shift.after]
      split
      · exact ⟨drained.closed, drained.quiet, onward (by simp)⟩
      · exact ⟨drained.closed, drained.quiet, onward (by simp)⟩
      · exact drained
  | take id =>
      simp only [Shift.after]
      split
      · next listed taken found =>
          cases listed with
          | nil => exact ⟨drained.closed, drained.quiet, onward (by simp)⟩
          | cons worker rest =>
              simp only [Shift.takeNext, drained.quiet, List.not_mem_nil, if_false]
              exact ⟨drained.closed, drained.quiet, onward (by simp)⟩
      · exact drained

theorem Drained.leads (drained : shift.Drained) (leads : shift.Leads later) : later.Drained := by
  induction leads with
  | refl => exact drained
  | step leads move ih => exact ih.after move

/-- What is outstanding after the last task has ended is nothing, and all drains are told. -/
theorem Sound.drained {aborted : Bool} (sound : shift.Sound) (begun : shift.calls ≠ [])
    (runs : shift.tasks[worker]? = some ⟨.running, aborted⟩)
    (last : (shift.workers.leave worker).outstanding = []) :
    (shift.after (.leave worker)).Drained := by
  simp only [Shift.after, runs]
  exact ⟨sound.heard.closed begun, last, told_leave last⟩

/-! ## Accounts -/

/-- The accounts of a pool are right, and its drains leave no task behind. -/
structure Accounted (shift : Shift) : Prop where
  /-- Every task has run, runs, has not begun to, or was asked to stop before it did. -/
  submitted : shift.workers.submitted = shift.workers.completed + shift.workers.active +
    shift.tasks.countP (fun task =>
      (task.phase = .waiting ∨ task.phase = .dropped) ∧ task.aborted = false) +
    shift.tasks.countP fun task =>
      (task.phase = .waiting ∨ task.phase = .dropped) ∧ task.aborted = true
  /-- Every task that has run is counted, and no other. -/
  completed : shift.workers.completed = shift.tasks.countP fun task => task.phase = .ended
  distinct : shift.workers.outstanding.Nodup
  /-- A task is outstanding until it has run or was given up. -/
  outstanding_iff {worker : WorkerId} : worker ∈ shift.workers.outstanding ↔
    (∃ task, shift.tasks[worker]? = some task ∧ task.phase ≠ .ended) ∧
      ∀ id, ¬ shift.GivesUp id worker
  /-- When the last outstanding task ends, no drain is left waiting that was not told. -/
  told {worker : WorkerId} {aborted : Bool} {later : Shift} (begun : shift.calls ≠ [])
    (runs : shift.tasks[worker]? = some ⟨.running, aborted⟩)
    (last : (shift.workers.leave worker).outstanding = [])
    (leads : (shift.after (.leave worker)).Leads later) : .waiting false ∉ later.calls
  /-- A drain returns how many tasks it has given up.  By then every task has run, or it was
  asked to stop and one drain has given it up. -/
  returned {id : DrainId} {taken : List WorkerId}
    (finished : shift.calls[id]? = some (.done taken)) :
    shift.workers.drain id = .over taken.length ∧ taken.Nodup ∧
      ∀ (worker : WorkerId) (task : Task), shift.tasks[worker]? = some task →
        task.phase = .ended ∨ task.aborted = true ∧ ∃! id', shift.GivesUp id' worker
  /-- Whom a drain has given up it counts when it returns. -/
  counted {id : DrainId} {worker : WorkerId} {later : Shift} (gives : shift.GivesUp id worker)
    (leads : shift.Leads later) : later.GivesUp id worker
  /-- After a drain has returned no task is taken on, and nothing is counted. -/
  closed {id : DrainId} {taken : List WorkerId} {later : Shift}
    (finished : shift.calls[id]? = some (.done taken)) (leads : shift.Leads later) :
    later.workers.spawn? = none ∧ later.after .spawn = later

theorem Sound.submitted (sound : shift.Sound) :
    shift.workers.submitted = shift.workers.completed + shift.workers.active +
      shift.tasks.countP (fun task =>
        (task.phase = .waiting ∨ task.phase = .dropped) ∧ task.aborted = false) +
      shift.tasks.countP fun task =>
        (task.phase = .waiting ∨ task.phase = .dropped) ∧ task.aborted = true := by
  rw [← sound.booked.submitted, sound.booked.completed, sound.booked.active]
  exact length_eq shift.tasks

theorem Sound.returned (sound : shift.Sound) (finished : shift.calls[id]? = some (.done taken)) :
    shift.workers.drain id = .over taken.length ∧ taken.Nodup ∧
      ∀ (worker : WorkerId) (task : Task), shift.tasks[worker]? = some task →
        task.phase = .ended ∨ task.aborted = true ∧ ∃! id', shift.GivesUp id' worker := by
  refine ⟨?_, ?_, ?_⟩
  · obtain ⟨drain, here, shows⟩ := sound.heard.shown finished
    rw [Workers.drain, List.getD_eq_getElem?_getD, here]
    exact shows
  · exact (List.nodup_flatMap.mp sound.kept.once).1 _ (List.mem_of_getElem? finished)
  · intro worker task found
    by_cases ended : task.phase = .ended
    · exact .inl ended
    · have quiet : shift.workers.outstanding = [] :=
        sound.heard.fits (List.mem_of_getElem? finished)
      -- Nothing is outstanding, so a task that has not run was given up.
      have given : worker ∈ givenUp shift.calls := by
        by_contra stays
        have mem := sound.kept.outstanding_iff.mpr ⟨⟨task, found, ended⟩, stays⟩
        rw [quiet] at mem
        cases mem
      obtain ⟨task', found', aborted⟩ := sound.kept.aborted given
      rw [found] at found'
      cases found'
      obtain ⟨id', call, here, gives⟩ := mem_givenUp.mp given
      refine .inr ⟨aborted, id', ⟨call, here, gives⟩, ?_⟩
      rintro id'' ⟨call', here', gives'⟩
      exact sole_of_nodup sound.kept.once here' here gives' gives

/-- However tasks come and go and drains meet, every task is accounted for. -/
theorem Run.accounted (run : Run shift) : shift.Accounted where
  submitted := run.sound.submitted
  completed := run.sound.booked.completed
  distinct := run.sound.kept.distinct
  outstanding_iff := by
    intro worker
    rw [run.sound.kept.outstanding_iff, mem_givenUp]
    simp only [not_exists]
  told begun runs last leads mem := ((run.sound.drained begun runs last).leads leads).told mem rfl
  returned finished := run.sound.returned finished
  counted gives leads := by
    obtain ⟨call, found, mem⟩ := gives
    obtain ⟨next, here, onward⟩ := onward_leads found leads
    exact ⟨next, here, onward.taken mem⟩
  closed := by
    intro id taken later finished leads
    have begun : later.calls ≠ [] :=
      List.ne_nil_of_mem (List.mem_of_getElem? (done_leads finished leads))
    have refuses : later.workers.spawn? = none := by
      rw [Workers.spawn?, (run.leads leads).sound.heard.closed begun]
      rfl
    refine ⟨refuses, ?_⟩
    simp only [Shift.after, refuses]

theorem Run.foldl (run : Run shift) (moves : List Move) : Run (moves.foldl Shift.after shift) := by
  induction moves generalizing shift with
  | nil => exact run
  | cons move moves ih => exact ih (run.step move)

/-- One task runs to its end, one is stuck and one never begins; two drains share what is left. -/
def shared : List Move :=
  [.spawn, .spawn, .spawn, .enter 0, .leave 0, .enter 1, .shut, .arm 0, .look 0, .shut, .arm 1,
    .look 1, .expire 0, .expire 1, .take 0, .take 1, .take 1, .take 0, .take 0, .take 1, .drop 2]

theorem Run.accounted_shared :
    Run (shared.foldl Shift.after idle) ∧
      (shared.foldl Shift.after idle).workers.drain 0 = .over 1 ∧
      (shared.foldl Shift.after idle).workers.drain 1 = .over 1 ∧
      (∃! id, (shared.foldl Shift.after idle).GivesUp id 1) ∧
      (∃! id, (shared.foldl Shift.after idle).GivesUp id 2) ∧
      (shared.foldl Shift.after idle).workers.spawn? = none := by
  have run : Run (shared.foldl Shift.after idle) := Run.start.foldl shared
  have first : (shared.foldl Shift.after idle).calls[0]? = some (.done [1]) := by decide
  have second : (shared.foldl Shift.after idle).calls[1]? = some (.done [2]) := by decide
  have stuck : (shared.foldl Shift.after idle).tasks[1]? = some ⟨.running, true⟩ := by decide
  have unbegun : (shared.foldl Shift.after idle).tasks[2]? = some ⟨.dropped, true⟩ := by decide
  obtain ⟨one, -, left⟩ := run.accounted.returned first
  obtain ⟨one', -, -⟩ := run.accounted.returned second
  refine ⟨run, one, one', ?_, ?_, (run.accounted.closed first .refl).1⟩
  · exact ((left 1 _ stuck).resolve_left (by decide)).2
  · exact ((left 2 _ unbegun).resolve_left (by decide)).2

end Shift

end Coedit
