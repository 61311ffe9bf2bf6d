import Coedit.Proofs.Hub.Seats

/-!
# Single jobs

What can become of a job with a move: it stays as it is, its section gets on, or it is
answered.  So a job that is done stays as it is, one that is to see nobody off never does,
and one that is to see a session off waits until it has.
-/

namespace Coedit

namespace Hub

/-- Whether handling sees nobody off. -/
def SeesNobodyOff (work : Handling) : Prop := ∀ document session, Retains document session work

theorem seesNobodyOff_handleBytes (document : DocumentId) (session : SessionId) (bytes : Bytes) :
    SeesNobodyOff (handleBytes document session bytes) := fun _ _ => retains_handleBytes

theorem seesNobodyOff_departed (document : DocumentId) (left : Nat) :
    SeesNobodyOff (departed document left) := fun _ _ => retains_departed left

theorem not_seesNobodyOff (document : DocumentId) (session : SessionId) (next : Nat → Handling) :
    ¬ SeesNobodyOff (.ask (.depart document session) next) :=
  fun retains => (retains document session).1 rfl

end Hub

namespace Hubs

variable {S B Fault Ask : Type} {Answer : Ask → Type} {hubs after : Hubs S B Ask Answer}
  {move : Move B Fault} {id : JobId} {home : HubId} {job : Job Ask Answer}

/-- What can become of a job with a move. -/
inductive JobTurn (id : JobId) (move : Move B Fault) (job : Job Ask Answer) :
    Job Ask Answer → Prop where
  | same : JobTurn id move job job
  /-- A section begins or gets on. -/
  | within {turned : Job Ask Answer} (rest : turned.rest = job.rest)
      (inside : job.opened ≠ none ∨
        ∃ document task next, job.rest = .ask (.section document task) next) :
      JobTurn id move job turned
  | answered {turned : Job Ask Answer} {moment : Lock.Moment} {call : Hub.Call}
      {next : call.Answer → Hub.Handling} {answer : call.Answer} (steps : move = .step id moment)
      (asks : job.rest = .ask call next) (rest : turned.rest = next answer) :
      JobTurn id move job turned

/-- Each job stays as it is, or its section gets on, or it is answered. -/
theorem turn_of_effect [Lease.Store S] [Medium B Fault Ask Answer] (effect : hubs.Effect move after)
    (bound : id < hubs.nextJob) (found : hubs.jobs.get? id = some job) :
    ∃ turned, after.jobs.get? id = some turned ∧ JobTurn id move job turned := by
  have stays (jobs : after.jobs = hubs.jobs) :
      ∃ turned, after.jobs.get? id = some turned ∧ JobTurn id move job turned :=
    ⟨job, by rw [jobs, found], .same⟩
  have changed {target : JobId} {before turned : Job Ask Answer}
      (there : hubs.jobs.get? target = some before)
      (jobs : ∀ other, after.jobs.get? other =
        if target = other then some turned else hubs.jobs.get? other)
      (turns : target = id → JobTurn id move before turned) :
      ∃ turned, after.jobs.get? id = some turned ∧ JobTurn id move job turned := by
    by_cases same : target = id
    · subst same
      cases there.symm.trans found
      exact ⟨turned, by rw [jobs, if_pos rfl], turns rfl⟩
    · exact ⟨job, by rw [jobs, if_neg same, found], .same⟩
  cases effect with
  | quiet _ _ _ _ _ _ jobs => exact stays jobs
  | locked _ _ _ _ _ _ _ _ _ jobs => exact stays jobs
  | ended _ _ _ _ _ _ _ _ _ jobs => exact stays jobs
  | drifted _ _ _ _ jobs => exact stays jobs
  | begun _ _ _ _ _ _ jobs =>
      exact ⟨job, by rw [jobs, Table.get?_insert, if_neg (Nat.ne_of_gt bound), found], .same⟩
  | replied there asks _ _ _ _ _ jobs =>
      exact changed there jobs fun same => .answered (by rw [same]) asks rfl
  | refused there asks _ _ _ _ _ jobs =>
      exact changed there jobs fun same => .answered (by rw [same]) asks rfl
  | closed there asks _ _ _ _ _ _ jobs =>
      exact changed there jobs fun same => .answered (by rw [same]) asks rfl
  | opened there _ asks _ _ _ _ _ _ jobs =>
      exact changed there jobs fun _ => .within rfl (.inr ⟨_, _, _, asks⟩)
  | asked there _ isOpen _ _ _ _ _ jobs =>
      exact changed there jobs fun _ => .within rfl (.inl (by simp [isOpen]))
  | consulted there isOpen _ _ _ _ jobs =>
      exact changed there jobs fun _ => .within rfl (.inl (by simp [isOpen]))

namespace JobTurn

variable {turned : Job Ask Answer}

/-- A job that is done and has no section open stays as it is. -/
theorem of_done {outcome : Hub.Outcome} (turn : JobTurn id move job turned)
    (done : job = ⟨home, .done outcome, none⟩) : turned = job := by
  subst done
  cases turn with
  | same => rfl
  | within rest inside =>
      rcases inside with isOpen | ⟨_, _, _, asks⟩
      · contradiction
      · cases asks
  | answered steps asks rest => cases asks

/-- A job that is to see nobody off never does. -/
theorem seesNobodyOff (turn : JobTurn id move job turned) (keeps : Hub.SeesNobodyOff job.rest) :
    Hub.SeesNobodyOff turned.rest := by
  cases turn with
  | same => exact keeps
  | within rest inside => rwa [rest]
  | answered steps asks rest =>
      rw [asks] at keeps
      rw [rest]
      exact fun document session => (keeps document session).2 _

/-- A job that is to see a session off waits while it does not go on. -/
theorem of_departing {document : DocumentId} {session : SessionId} {next : Nat → Hub.Handling}
    (turn : JobTurn id move job turned)
    (departs : job = ⟨home, .ask (.depart document session) next, none⟩)
    (waits : ∀ moment, move ≠ .step id moment) : turned = job := by
  subst departs
  cases turn with
  | same => rfl
  | within rest inside =>
      rcases inside with isOpen | ⟨_, _, _, asks⟩
      · contradiction
      · cases asks
  | answered steps asks rest => exact absurd steps (waits _)

end JobTurn

end Hubs

end Coedit
