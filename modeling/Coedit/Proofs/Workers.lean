import Coedit.Workers

/-!
# Accounts of workers

A pool that has begun to drain takes no task on any more.  No drain of it is over, or
is told so, while a task is outstanding.
-/

namespace Coedit.Workers

/-- Whoever drains a pool waits while tasks are outstanding, and finds it closed. -/
structure Sound (workers : Workers) : Prop where
  drained {drain : Drain} (member : drain ∈ workers.drains) :
    drain = .waiting ∨ workers.outstanding = []
  closed (drained : workers.drains ≠ []) : workers.accepting = false

/-- What becomes of a pool: it forgets neither a task nor a drain, and once closed it
neither opens again nor takes a task on. -/
structure Onward (workers after : Workers) : Prop where
  sound (sound : workers.Sound) : after.Sound
  submitted : workers.submitted ≤ after.submitted
  drains : workers.drains.length ≤ after.drains.length
  closed (closed : workers.accepting = false) : after.accepting = false
  quiet (closed : workers.accepting = false) (quiet : workers.outstanding = []) :
    after.outstanding = []

variable {workers : Workers}

theorem sound_idle : Sound idle := ⟨by simp [idle], by simp [idle]⟩

theorem Onward.refl (workers : Workers) : workers.Onward workers :=
  ⟨fun sound => sound, Nat.le_refl _, Nat.le_refl _, fun closed => closed, fun _ quiet => quiet⟩

/-- A pool that accepts tasks numbers them as they come. -/
theorem spawn?_eq_some {worker : WorkerId} {after : Workers}
    (spawned : workers.spawn? = some (worker, after)) :
    workers.accepting = true ∧ worker = workers.submitted ∧
      after = { workers with
        submitted := workers.submitted + 1
        outstanding := workers.outstanding ++ [workers.submitted] } := by
  unfold spawn? at spawned
  split at spawned
  · next accepting =>
      cases spawned
      exact ⟨accepting, rfl, rfl⟩
  · cases spawned

theorem onward_spawn {worker : WorkerId} {after : Workers}
    (spawned : workers.spawn? = some (worker, after)) : workers.Onward after := by
  obtain ⟨accepting, -, rfl⟩ := spawn?_eq_some spawned
  refine ⟨fun sound => ?_, Nat.le_succ _, Nat.le_refl _, ?_, ?_⟩
  · have undrained : workers.drains = [] := Decidable.byContradiction fun drained => by
      simp [sound.closed drained] at accepting
    exact ⟨by simp [undrained], by simp [undrained]⟩
  all_goals simp [accepting]

theorem onward_enter : workers.Onward workers.enter :=
  ⟨fun sound => ⟨sound.drained, sound.closed⟩, Nat.le_refl _, Nat.le_refl _,
    fun closed => closed, fun _ quiet => quiet⟩

theorem mem_leave {worker other : WorkerId} :
    other ∈ (workers.leave worker).outstanding ↔ other ∈ workers.outstanding ∧ other ≠ worker := by
  simp [leave]

theorem onward_leave (worker : WorkerId) : workers.Onward (workers.leave worker) := by
  refine ⟨fun sound => ⟨fun {drain} member => ?_, fun drained => ?_⟩, Nat.le_refl _, ?_,
    fun closed => closed, fun _ quiet => by simp [leave, quiet]⟩
  · by_cases last : (workers.outstanding.filter (· ≠ worker)).isEmpty
    · exact .inr (by simpa [leave] using last)
    · simp only [leave, last] at member
      rcases sound.drained member with waiting | quiet
      · exact .inl waiting
      · simp [quiet] at last
  · refine sound.closed fun undrained => drained ?_
    simp [leave, undrained]
  · simp only [leave]
    split <;> simp

/-- A drain that looks waits on if it has to. -/
theorem look_waits {drain : Drain} (before : drain = .waiting ∨ workers.outstanding = []) :
    drain.look workers.outstanding.length = .waiting ∨ workers.outstanding = [] := by
  rcases before with rfl | quiet
  · by_cases quiet : workers.outstanding = []
    · exact .inr quiet
    · exact .inl (by simp [Drain.look, quiet])
  · exact .inr quiet

theorem onward_close : workers.Onward workers.close.2 := by
  refine ⟨fun sound => ⟨fun {drain} member => ?_, fun _ => rfl⟩, Nat.le_refl _, ?_,
    fun _ => rfl, fun _ quiet => quiet⟩
  · simp only [close, List.mem_append, List.mem_singleton] at member
    rcases member with old | rfl
    · exact sound.drained old
    · exact look_waits (.inl rfl)
  · simp [close]

theorem onward_look (id : DrainId) : workers.Onward (workers.look id) := by
  refine ⟨fun sound => ⟨fun {drain} member => ?_, fun drained => ?_⟩, Nat.le_refl _, ?_,
    fun closed => closed, fun _ quiet => quiet⟩
  · obtain ⟨index, found⟩ := List.mem_iff_getElem?.mp member
    simp only [look, List.getElem?_modify, Option.map_eq_map, Option.map_eq_some_iff] at found
    obtain ⟨before, foundBefore, rfl⟩ := found
    have waits := sound.drained (List.mem_of_getElem? foundBefore)
    split
    · exact look_waits waits
    · exact waits
  · refine sound.closed fun undrained => drained ?_
    simp [look, undrained]
  · simp [look]

theorem onward_giveUp (id : DrainId) : workers.Onward (workers.giveUp id).2 := by
  refine ⟨fun sound => ⟨fun _ => .inr rfl, fun drained => ?_⟩, Nat.le_refl _, ?_,
    fun closed => closed, fun _ _ => rfl⟩
  · refine sound.closed fun undrained => drained ?_
    simp [giveUp, undrained]
  · simp [giveUp]

/-- A drain that does not wait has no task to wait for. -/
theorem Sound.quiet (sound : workers.Sound) {id : DrainId} (known : id < workers.drains.length)
    (still : workers.drain id ≠ .waiting) : workers.outstanding = [] := by
  have member : workers.drain id ∈ workers.drains := by
    simp only [drain, List.getD_eq_getElem?_getD, List.getElem?_eq_getElem known,
      Option.getD_some]
    exact List.getElem_mem _
  rcases sound.drained member with waiting | quiet
  · exact absurd waiting still
  · exact quiet

end Coedit.Workers
