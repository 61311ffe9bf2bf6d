import Coedit.Proofs.Hub.Frames

/-!
# Updates that are passed on

A job is done when the last of its calls is answered.  For an update that was merged this
is the call by which it is passed on to the other sessions, and its section has ended
before.
-/

namespace Coedit

namespace Hub

/-- Merge an update and pass on what comes of it. -/
def merging (document : DocumentId) (session : SessionId) (update : Bytes) : Handling :=
  inSection document (.merge update) fun
    | some update =>
        .ask (.broadcast document session (.sync .update update)) fun _ => .done (.ok [])
    | none => .done (.ok [])

theorem handle_of_merge {frame : Frame} {update : Bytes} (document : DocumentId)
    (session : SessionId) (merges : frame.task? = some (.merge update)) :
    handle document session frame = merging document session update := by
  obtain ⟨kind, payload⟩ := frame
  cases kind with
  | sync step =>
      cases step with
      | request => cases merges
      | answer =>
          cases merges
          rfl
      | update =>
          cases merges
          rfl
  | awareness => cases merges
  | auth => cases merges
  | query => cases merges

/-- Whether handling passes no frame on but these. -/
def PassesOnly (allowed : Frame → Prop) : Handling → Prop
  | .done _ => True
  | .ask call next =>
      (∀ document sender frame, call = .broadcast document sender frame → allowed frame) ∧
        ∀ answer, PassesOnly allowed (next answer)

section

variable {allowed : Frame → Prop} {document : DocumentId} {session : SessionId} {frame : Frame}
  {work rest : Handling} {given : List ((call : Call) × call.Answer)}

theorem passesOnly_rest (only : PassesOnly allowed work) (leads : work.Leads given rest) :
    PassesOnly allowed rest := by
  induction leads with
  | start => exact only
  | answered leads answer ih => exact ih.2 answer

theorem passesOnly_inSection {task : Task} {next : Option Bytes → Handling}
    (only : ∀ handed, PassesOnly allowed (next handed)) :
    PassesOnly allowed (inSection document task next) := by
  refine ⟨by simp, fun answer => ?_⟩
  cases answer with
  | ok handed => exact only handed
  | error failure => trivial

/-- For a frame that is not merged no sync frame is passed on. -/
theorem passesOnly_handle (merges : ∀ update, frame.task? ≠ some (.merge update)) :
    PassesOnly (fun passed => passed.isSync = false) (handle document session frame) := by
  obtain ⟨kind, payload⟩ := frame
  cases kind with
  | sync step =>
      cases step with
      | request => exact passesOnly_inSection fun _ => trivial
      | answer => exact absurd rfl (merges payload)
      | update => exact absurd rfl (merges payload)
  | awareness =>
      refine ⟨by simp, fun _ => ⟨?_, fun _ => trivial⟩⟩
      rintro _ _ _ ⟨⟩
      rfl
  | auth => trivial
  | query => exact ⟨by simp, fun _ => trivial⟩

/-- Nothing is passed on for a session that leaves. -/
theorem passesOnly_dismiss : PassesOnly allowed (dismiss document session) := by
  refine ⟨by simp, fun left => ?_⟩
  dsimp only
  split
  · trivial
  · refine ⟨by simp, fun loaded => ?_⟩
    dsimp only
    split
    · exact passesOnly_inSection fun _ => trivial
    · trivial

end

end Hub

namespace Hubs

variable {S B Fault Ask : Type} {Answer : Ask → Type} {hubs after : Hubs S B Ask Answer}
  {move : Move B Fault} {id : JobId} {path : List (Hubs S B Ask Answer × Move B Fault)}
  {job : Job Ask Answer} {document : DocumentId} {session : SessionId} {update : Bytes}
  {outcome : Hub.Outcome}

/-! ## Jobs that are done -/

/-- How a job that was not done is done after a move. -/
inductive Finish (hubs : Hubs S B Ask Answer) (id : JobId) (outcome : Hub.Outcome) :
    Move B Fault → Prop where
  /-- It has just begun and has nothing to do. -/
  | begun {move : Move B Fault} {hub : HubId} (begins : move.begins? = some (hub, .done outcome))
      (number : hubs.nextJob = id) : Finish hubs id outcome move
  | replied {moment : Lock.Moment} {job : Job Ask Answer} {call : Hub.Call}
      {next : call.Answer → Hub.Handling} {answer : call.Answer}
      (found : hubs.jobs.get? id = some job) (rest : job.rest = .ask call next)
      (plain : ∀ document task, call ≠ .section document task)
      (last : next answer = .done outcome) : Finish hubs id outcome (.step id moment)
  | refused {moment : Lock.Moment} {job : Job Ask Answer} {document : DocumentId} {task : Hub.Task}
      {resource : String}
      {next : Except (Operation.Failure Section.Error) (Option Bytes) → Hub.Handling}
      (found : hubs.jobs.get? id = some job) (rest : job.rest = .ask (.section document task) next)
      (last : next (.error (.rejected resource)) = .done outcome) :
      Finish hubs id outcome (.step id moment)
  | closed {moment : Lock.Moment} {job : Job Ask Answer} {operation : OperationId}
      {body : Section Ask Answer (Option Bytes)} {document : DocumentId} {task : Hub.Task}
      {next : Except (Operation.Failure Section.Error) (Option Bytes) → Hub.Handling}
      {result : Except (Operation.Failure Section.Error) (Option Bytes)}
      (found : hubs.jobs.get? id = some job) (rest : job.rest = .ask (.section document task) next)
      (isOpen : job.opened = some (operation, body))
      (finished : hubs.site.result? operation = some result)
      (last : next result = .done outcome) : Finish hubs id outcome (.step id moment)

theorem result?_eq_some_iff :
    hubs.result? id = some outcome ↔ ∃ job, hubs.jobs.get? id = some job ∧ job.rest = .done outcome := by
  constructor
  · intro result
    unfold result? at result
    split at result
    · next found =>
        cases result
        exact ⟨_, found, rfl⟩
    · cases result
  · rintro ⟨⟨hub, rest, opened⟩, found, rfl⟩
    simp only [result?, found]

/-- A move changes one job at most, which is then done if its last call was answered. -/
theorem finish_of_effect [Lease.Store S] [Medium B Fault Ask Answer]
    (effect : hubs.Effect move after) (result : after.result? id = some outcome) :
    hubs.result? id = some outcome ∨ Finish hubs id outcome move := by
  obtain ⟨job, found, rest⟩ := result?_eq_some_iff.mp result
  have same : after.jobs = hubs.jobs → hubs.result? id = some outcome := by
    intro jobs
    exact result?_eq_some_iff.mpr ⟨job, jobs ▸ found, rest⟩
  have changed : ∀ {target : JobId} {before changed : Job Ask Answer},
      hubs.jobs.get? target = some before →
      (∀ other, after.jobs.get? other =
        if target = other then some changed else hubs.jobs.get? other) →
      hubs.result? id = some outcome ∨ target = id ∧ changed.rest = .done outcome := by
    intro target before changed target' jobs
    rw [jobs] at found
    split at found
    · next equal =>
        cases found
        exact .inr ⟨equal, rest⟩
    · exact .inl (result?_eq_some_iff.mpr ⟨job, found, rest⟩)
  cases effect with
  | quiet _ _ _ _ _ _ jobs => exact .inl (same jobs)
  | locked _ _ _ _ _ _ _ _ _ jobs => exact .inl (same jobs)
  | ended _ _ _ _ _ _ _ _ _ jobs => exact .inl (same jobs)
  | drifted _ _ _ _ jobs => exact .inl (same jobs)
  | @begun _ _ hub work begins archive next site medium core jobs silent =>
      rw [jobs, Table.get?_insert] at found
      split at found
      · next number =>
          cases found
          cases rest
          exact .inr (.begun begins number)
      · exact .inl (result?_eq_some_iff.mpr ⟨job, found, rest⟩)
  | replied target asks plain beside site medium core jobs silent =>
      rcases changed target jobs with before | ⟨rfl, last⟩
      · exact .inl before
      · exact .inr (.replied target asks plain last)
  | refused target asks unopened beside site medium core jobs silent =>
      rcases changed target jobs with before | ⟨rfl, last⟩
      · exact .inl before
      · exact .inr (.refused target asks last)
  | closed target asks isOpen finished beside site medium core jobs silent =>
      rcases changed target jobs with before | ⟨rfl, last⟩
      · exact .inl before
      · exact .inr (.closed target asks isOpen finished last)
  | opened target hubFound asks unopened beside accepted site medium core jobs silent =>
      rcases changed target jobs with before | ⟨rfl, last⟩
      · exact .inl before
      · exact .inl (result?_eq_some_iff.mpr ⟨_, target, last⟩)
  | asked target hubFound isOpen runs beside site medium table jobs silent =>
      rcases changed target jobs with before | ⟨rfl, last⟩
      · exact .inl before
      · exact .inl (result?_eq_some_iff.mpr ⟨_, target, last⟩)
  | consulted target isOpen beside site medium core jobs =>
      rcases changed target jobs with before | ⟨rfl, last⟩
      · exact .inl before
      · exact .inl (result?_eq_some_iff.mpr ⟨_, target, last⟩)

/-- A job that is done stays as it is. -/
theorem result?_of_effect [Lease.Store S] [Medium B Fault Ask Answer]
    (effect : hubs.Effect move after)
    (numbered : ∀ job, hubs.jobs.get? id = some job → id < hubs.nextJob)
    (result : hubs.result? id = some outcome) : after.result? id = some outcome := by
  obtain ⟨job, found, rest⟩ := result?_eq_some_iff.mp result
  have same : after.jobs = hubs.jobs → after.result? id = some outcome := by
    intro jobs
    exact result?_eq_some_iff.mpr ⟨job, jobs ▸ found, rest⟩
  have changed : ∀ {target : JobId} {before changed : Job Ask Answer},
      hubs.jobs.get? target = some before →
      (∀ other, after.jobs.get? other =
        if target = other then some changed else hubs.jobs.get? other) →
      (before.rest = .done outcome → changed.rest = .done outcome) →
      after.result? id = some outcome := by
    intro target before changed target' jobs stays
    refine result?_eq_some_iff.mpr ?_
    by_cases equal : target = id
    · subst equal
      cases target'.symm.trans found
      exact ⟨changed, by rw [jobs, if_pos rfl], stays rest⟩
    · exact ⟨job, by rw [jobs, if_neg equal, found], rest⟩
  have answered : ∀ {job : Job Ask Answer} {call : Hub.Call} {next : call.Answer → Hub.Handling}
      {later : Hub.Handling}, job.rest = .ask call next → job.rest = .done outcome →
      later = .done outcome := by
    intro job call next later asks done
    cases asks.symm.trans done
  cases effect with
  | quiet _ _ _ _ _ _ jobs => exact same jobs
  | locked _ _ _ _ _ _ _ _ _ jobs => exact same jobs
  | ended _ _ _ _ _ _ _ _ _ jobs => exact same jobs
  | drifted _ _ _ _ jobs => exact same jobs
  | begun _ _ _ _ _ _ jobs =>
      refine result?_eq_some_iff.mpr ⟨job, ?_, rest⟩
      rw [jobs, Table.get?_insert, if_neg (Nat.ne_of_gt (numbered job found)), found]
  | replied target asks _ _ _ _ _ jobs => exact changed target jobs (answered asks)
  | refused target asks _ _ _ _ _ jobs => exact changed target jobs (answered asks)
  | closed target asks _ _ _ _ _ _ jobs => exact changed target jobs (answered asks)
  | opened target _ _ _ _ _ _ _ _ jobs => exact changed target jobs fun done => done
  | asked target _ _ _ _ _ _ _ jobs => exact changed target jobs fun done => done
  | consulted target _ _ _ _ _ jobs => exact changed target jobs fun done => done

/-- A move that ends a job answers it, unless it begins it. -/
theorem Finish.asks (finish : Finish hubs id outcome move) (begun : hubs.nextJob ≠ id)
    (found : hubs.jobs.get? id = some job) :
    ∃ moment call next answer, move = .step id moment ∧ job.rest = .ask call next ∧
      next answer = .done outcome := by
  cases finish with
  | begun begins number => exact absurd number begun
  | replied found' asks plain last =>
      cases found.symm.trans found'
      exact ⟨_, _, _, _, rfl, asks, last⟩
  | refused found' asks last =>
      cases found.symm.trans found'
      exact ⟨_, _, _, _, rfl, asks, last⟩
  | closed found' asks isOpen finished last =>
      cases found.symm.trans found'
      exact ⟨_, _, _, _, rfl, asks, last⟩

/-- A section that is the last call of a job was refused, or its operation is finished. -/
theorem Finish.of_section (finish : Finish hubs id outcome move) (begun : hubs.nextJob ≠ id)
    (found : hubs.jobs.get? id = some job) {task : Hub.Task}
    {next : Except (Operation.Failure Section.Error) (Option Bytes) → Hub.Handling}
    (asks : job.rest = .ask (.section document task) next) :
    (∃ resource, next (.error (.rejected resource)) = .done outcome) ∨
      ∃ operation body result, job.opened = some (operation, body) ∧
        hubs.site.result? operation = some result ∧ next result = .done outcome := by
  cases finish with
  | begun begins number => exact absurd number begun
  | replied found' asks' plain last =>
      cases found.symm.trans found'
      cases asks.symm.trans asks'
      exact absurd rfl (plain _ _)
  | refused found' asks' last =>
      cases found.symm.trans found'
      cases asks.symm.trans asks'
      exact .inl ⟨_, last⟩
  | closed found' asks' isOpen finished last =>
      cases found.symm.trans found'
      cases asks.symm.trans asks'
      exact .inr ⟨_, _, _, isOpen, finished, last⟩

/-! ## Jobs that merge -/

/-- What a section hands out shows in how it ended. -/
theorem told_of_value {handed : Option Bytes}
    {told : Option (Operation.Ending (Option Bytes) Section.Error)}
    (tells : Operation.Phase.Tells (.finished (.ok handed)) told) :
    told = some (.value handed) := by
  obtain ⟨resource, ending, rfl, result⟩ | ⟨failure, -, result, -⟩ := tells.cases_result
  · cases ending with
    | value value =>
        cases result
        rfl
    | error error => cases result
    | panic message => cases result
  · cases result

/-- Where a job is that merges an update: in its section, or about to pass on what its
section handed out, or done. -/
theorem Stage.of_merging (stage : Stage path hubs id (Hub.merging document session update) job) :
    (job.rest = Hub.merging document session update ∧
        ∀ operation body handed, job.opened = some (operation, body) →
          hubs.site.result? operation = some (.ok handed) →
          ⟨id, job.hub, document, .merge update, .value handed⟩ ∈ events path) ∨
      (∃ handed, job.opened = none ∧
        job.rest = .ask (.broadcast document session (.sync .update handed))
          (fun _ => .done (.ok [])) ∧
        ⟨id, job.hub, document, .merge update, .value (some handed)⟩ ∈ events path) ∨
      ∃ outcome, job.rest = .done outcome := by
  cases stage with
  | @inside given settled operation body document' task next entry told isOpen rest leads accounts
      found tells settles =>
      rw [rest] at leads
      rcases leads.of_ask with ⟨rfl, equal⟩ | ⟨result, later, rfl, onwards⟩
      · cases equal
        cases accounts
        refine .inl ⟨rest, ?_⟩
        intro operation' body' handed isOpen' finished
        rw [isOpen] at isOpen'
        cases isOpen'
        have phase : entry.operation.phase = .finished (.ok handed) := by
          simp only [Site.result?, Site.operation?, found, Option.map_some, Option.bind_some,
            Operation.result?] at finished
          split at finished
          · next phase =>
              cases finished
              exact phase
          · cases finished
        rw [phase] at tells
        have member : ⟨id, job.hub, document, .merge update, .value handed⟩ ∈
            eventsBy id path := by
          rw [settles, told_of_value tells]
          simp [recorded]
        exact (List.mem_filter.mp member).1
      · have none : Hub.OpensOnly (fun _ _ => False) (.ask (.section document' task) next) := by
          refine Hub.opensOnly_rest ?_ onwards
          cases result with
          | ok handed => exact Hub.opensOnly_broadcast handed
          | error failure => trivial
        exact (none.1 _ _ rfl).elim
  | outside unopened leads accounts =>
      rcases leads.of_ask with ⟨rfl, rest⟩ | ⟨result, later, rfl, onwards⟩
      · refine .inl ⟨rest, ?_⟩
        intro operation body handed isOpen
        rw [unopened] at isOpen
        cases isOpen
      · rcases result with failure | _ | handed
        · exact .inr (.inr ⟨_, onwards.of_done.2⟩)
        · exact .inr (.inr ⟨_, onwards.of_done.2⟩)
        · rcases onwards.of_ask with ⟨rfl, rest⟩ | ⟨answer, last, rfl, done⟩
          · refine .inr (.inl ⟨handed, unopened, rest, ?_⟩)
            rw [List.nil_append] at accounts
            generalize own : eventsBy id path = settled at accounts
            cases accounts with
            | plain accounts plain => exact absurd rfl (plain _ _)
            | opened accounts tells =>
                have member : ⟨id, job.hub, document, .merge update, .value (some handed)⟩ ∈
                    eventsBy id path := by
                  rw [own, told_of_value tells]
                  simp [recorded]
                exact (List.mem_filter.mp member).1
          · exact .inr (.inr ⟨_, done.of_done.2⟩)

/-- A job that merges an update and is done with it has just passed on what its section
handed out, unless that handed out nothing. -/
theorem Stage.passes (stage : Stage path hubs id (Hub.merging document session update) job)
    (found : hubs.jobs.get? id = some job) {replies : List Frame}
    (finish : Finish hubs id (.ok replies) move) (begun : hubs.nextJob ≠ id) :
    ⟨id, job.hub, document, .merge update, .value none⟩ ∈ events path ∨
      ∃ moment handed, move = .step id moment ∧
        hubs.jobs.get? id = some ⟨job.hub, .ask (.broadcast document session (.sync .update handed))
          (fun _ => .done (.ok [])), none⟩ ∧
        ⟨id, job.hub, document, .merge update, .value (some handed)⟩ ∈ events path := by
  rcases stage.of_merging with ⟨rest, ends⟩ | ⟨handed, unopened, rest, ended⟩ | ⟨outcome, rest⟩
  · left
    rcases finish.of_section begun found rest with
      ⟨resource, last⟩ | ⟨operation, body, result, isOpen, finished, last⟩
    · cases last
    · rcases result with failure | _ | handed
      · cases last
      · exact ends operation body none isOpen finished
      · cases last
  · right
    obtain ⟨moment, _, _, _, rfl, -, -⟩ := finish.asks begun found
    obtain ⟨hub, work, opened⟩ := job
    cases rest
    cases unopened
    exact ⟨moment, handed, rfl, found, ended⟩
  · obtain ⟨_, _, _, _, -, asks, -⟩ := finish.asks begun found
    cases rest.symm.trans asks

/-! ## Jobs that pass on -/

/-- A job passes on no sync frame that its work does not pass on. -/
theorem Stage.not_passes {work : Hub.Handling} (stage : Stage path hubs id work job)
    (only : Hub.PassesOnly (fun passed => passed.isSync = false) work) {frame : Frame}
    {next : Nat → Hub.Handling} (rest : job.rest = .ask (.broadcast document session frame) next) :
    frame.isSync = false := by
  obtain ⟨given, leads⟩ := stage.leads
  have remains := Hub.passesOnly_rest only leads
  rw [rest] at remains
  exact remains.1 _ _ _ rfl

/-- A sync frame is passed on for a frame only. -/
theorem Traced.frame_of_passing (traced : Traced path hubs) (bound : id < hubs.nextJob)
    (found : hubs.jobs.get? id = some job) {frame : Frame} {next : Nat → Hub.Handling}
    (rest : job.rest = .ask (.broadcast document session frame) next)
    (sync : frame.isSync = true) :
    ∃ begun hub document sender bytes, (begun, .frame hub document sender bytes) ∈ path ∧
      begun.nextJob = id := by
  obtain ⟨begun, move, hub, work, member, begins, rfl⟩ := traced.stems bound
  cases move with
  | frame hub document sender bytes => exact ⟨begun, hub, document, sender, bytes, member, rfl⟩
  | leave hub document session =>
      cases begins
      obtain ⟨job', found', -, stage⟩ := traced.comes member rfl
      cases found.symm.trans found'
      have plain := stage.not_passes Hub.passesOnly_dismiss rest
      rw [sync] at plain
      cases plain
  | _ => cases begins

/-- A job that passes a sync frame on has merged the update of its own frame, and passes on
what its section handed out. -/
theorem Traced.of_passing (traced : Traced path hubs) {begun : Hubs S B Ask Answer} {hub : HubId}
    {sender : SessionId} {bytes : Bytes} {target : DocumentId} {frame : Frame}
    (member : (begun, .frame hub document sender bytes) ∈ path)
    (found : hubs.jobs.get? begun.nextJob = some job) {next : Nat → Hub.Handling}
    (rest : job.rest = .ask (.broadcast target session frame) next) (sync : frame.isSync = true) :
    job.hub = hub ∧ target = document ∧ session = sender ∧ (next = fun _ => .done (.ok [])) ∧
      ∃ brought update handed, Frame.decode bytes = .ok brought ∧
        brought.task? = some (.merge update) ∧ frame = .sync .update handed ∧
        ⟨begun.nextJob, hub, document, .merge update, .value (some handed)⟩ ∈ events path := by
  obtain ⟨job', found', rfl, stage⟩ := traced.comes member rfl
  cases found.symm.trans found'
  cases decoded : Frame.decode bytes with
  | error error =>
      rw [Hub.handleBytes, decoded] at stage
      have plain := stage.not_passes trivial rest
      rw [sync] at plain
      cases plain
  | ok brought =>
      rw [Hub.handleBytes, decoded] at stage
      dsimp only at stage
      by_cases merges : ∃ update, brought.task? = some (.merge update)
      · obtain ⟨update, merges⟩ := merges
        rw [Hub.handle_of_merge document sender merges] at stage
        rcases stage.of_merging with ⟨opens, -⟩ | ⟨handed, -, passes, ended⟩ | ⟨outcome, done⟩
        · cases rest.symm.trans opens
        · cases rest.symm.trans passes
          exact ⟨rfl, rfl, rfl, rfl, brought, update, handed, rfl, merges, rfl, ended⟩
        · cases rest.symm.trans done
      · have plain := stage.not_passes
          (Hub.passesOnly_handle fun update equal => merges ⟨update, equal⟩) rest
        rw [sync] at plain
        cases plain

end Hubs

end Coedit
