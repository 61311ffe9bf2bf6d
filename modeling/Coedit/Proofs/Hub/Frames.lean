import Coedit.Proofs.Hub.Trace

/-!
# Frames and their sections

A sync frame opens one section of its document, and no other frame opens any.  The
outcome of handling it tells how the section ended: frames come back for a value, and
an error of the section comes back as what it was.
-/

namespace Coedit

/-- What a frame has done under the lock of its document. -/
def Frame.task? (frame : Frame) : Option Hub.Task :=
  match frame.kind with
  | .sync .request => some (.diff frame.payload)
  | .sync _ => some (.merge frame.payload)
  | _ => none

/-- What comes back to the sender of a frame for what its section hands out. -/
def Frame.replies (frame : Frame) (handed : Option Bytes) : List Frame :=
  match frame.kind with
  | .sync .request => [.sync .answer (handed.getD [])]
  | _ => []

namespace Hub

/-- Whether handling opens no sections but these. -/
def OpensOnly (allowed : DocumentId → Task → Prop) : Handling → Prop
  | .done _ => True
  | .ask call next =>
      (∀ document task, call = .section document task → allowed document task) ∧
        ∀ answer, OpensOnly allowed (next answer)

variable {allowed : DocumentId → Task → Prop} {document : DocumentId} {session : SessionId}
  {frame : Frame} {task : Task} {given : List ((call : Call) × call.Answer)}
  {work rest : Handling}

theorem opensOnly_rest (only : OpensOnly allowed work) (leads : work.Leads given rest) :
    OpensOnly allowed rest := by
  induction leads with
  | start => exact only
  | answered leads answer ih => exact ih.2 answer

/-- All sections that were opened are allowed. -/
theorem opensOnly_given (only : OpensOnly allowed work) (leads : work.Leads given rest)
    {result : Except (Operation.Failure Section.Error) (Option Bytes)}
    (member : ⟨.section document task, result⟩ ∈ given) : allowed document task := by
  induction leads with
  | start => cases member
  | answered leads answer ih =>
      rcases List.mem_cons.mp member with equal | member
      · cases equal
        exact (opensOnly_rest only leads).1 document task rfl
      · exact ih member

theorem opensOnly_inSection {next : Option Bytes → Handling} (allows : allowed document task)
    (only : ∀ handed, OpensOnly allowed (next handed)) :
    OpensOnly allowed (inSection document task next) := by
  constructor
  · rintro _ _ ⟨⟩
    exact allows
  · intro answer
    cases answer with
    | ok handed => exact only handed
    | error failure => trivial

/-- Passing an update on opens no section. -/
theorem opensOnly_broadcast (handed : Option Bytes) :
    OpensOnly allowed
      (match handed with
        | some update =>
            .ask (.broadcast document session (.sync .update update)) fun _ => .done (.ok [])
        | none => .done (.ok [])) := by
  cases handed with
  | some update => exact ⟨by simp, fun _ => trivial⟩
  | none => trivial

/-- Handling a frame opens the section of the frame's task only. -/
theorem opensOnly_handle :
    OpensOnly (fun target task => target = document ∧ frame.task? = some task)
      (handle document session frame) := by
  obtain ⟨kind, payload⟩ := frame
  cases kind with
  | sync step =>
      cases step with
      | request => exact opensOnly_inSection ⟨rfl, rfl⟩ fun _ => trivial
      | answer => exact opensOnly_inSection ⟨rfl, rfl⟩ opensOnly_broadcast
      | update => exact opensOnly_inSection ⟨rfl, rfl⟩ opensOnly_broadcast
  | awareness => exact ⟨by simp, fun _ => ⟨by simp, fun _ => trivial⟩⟩
  | auth => trivial
  | query => exact ⟨by simp, fun _ => trivial⟩

/-- A session that leaves can only have its document dropped. -/
theorem opensOnly_dismiss :
    OpensOnly (fun target task => target = document ∧ task = .evict)
      (dismiss document session) := by
  refine ⟨by simp, fun left => ?_⟩
  dsimp only
  split
  · trivial
  · refine ⟨by simp, fun loaded => ?_⟩
    dsimp only
    split
    · exact opensOnly_inSection ⟨rfl, rfl⟩ fun _ => trivial
    · trivial

/-- What a sync frame does with the result of its section: it opens no other, replies to
a value and passes on why there is none. -/
structure Continues (frame : Frame)
    (next : Except (Operation.Failure Section.Error) (Option Bytes) → Handling) : Prop where
  plain (result : Except (Operation.Failure Section.Error) (Option Bytes)) :
    OpensOnly (fun _ _ => False) (next result)
  replies {handed : Option Bytes} {later : List ((call : Call) × call.Answer)}
    {outcome : Outcome} (leads : (next (.ok handed)).Leads later (.done outcome)) :
    outcome = .ok (frame.replies handed)
  fails (failure : Operation.Failure Section.Error) :
    next (.error failure) = .done (.error (.ofFailure failure))

/-- An update is passed on to the other sessions, and nothing comes back for it. -/
theorem continues_passing
    {next : Except (Operation.Failure Section.Error) (Option Bytes) → Handling}
    (silent : frame.replies = fun _ => [])
    (passes : ∀ update, next (.ok (some update)) =
      .ask (.broadcast document session (.sync .update update)) fun _ => .done (.ok []))
    (drops : next (.ok none) = .done (.ok []))
    (fails : ∀ failure, next (.error failure) = .done (.error (.ofFailure failure))) :
    Continues frame next := by
  constructor
  · intro result
    rcases result with failure | _ | update
    · rw [fails]
      trivial
    · rw [drops]
      trivial
    · rw [passes]
      exact ⟨by simp, fun _ => trivial⟩
  · intro handed later outcome leads
    rw [silent]
    cases handed with
    | some update =>
        rw [passes] at leads
        rcases leads.of_ask with ⟨-, equal⟩ | ⟨answer, earlier, -, onwards⟩
        · cases equal
        · cases onwards.of_done.2
          rfl
    | none =>
        rw [drops] at leads
        cases leads.of_done.2
        rfl
  · exact fails

/-- A sync frame opens its section first. -/
theorem handle_of_task (opens : frame.task? = some task) :
    ∃ next, handle document session frame = .ask (.section document task) next ∧
      Continues frame next := by
  obtain ⟨kind, payload⟩ := frame
  cases kind with
  | sync step =>
      cases step with
      | request =>
          cases opens
          refine ⟨_, rfl, ?_, ?_, fun _ => rfl⟩
          · intro result
            cases result with
            | ok handed => trivial
            | error failure => trivial
          · intro handed later outcome leads
            cases leads.of_done.2
            rfl
      | answer =>
          cases opens
          exact ⟨_, rfl, continues_passing rfl (fun _ => rfl) rfl fun _ => rfl⟩
      | update =>
          cases opens
          exact ⟨_, rfl, continues_passing rfl (fun _ => rfl) rfl fun _ => rfl⟩
  | awareness => cases opens
  | auth => cases opens
  | query => cases opens

end Hub

namespace Hubs

variable {S B Fault Ask : Type} {Answer : Ask → Type} {hubs : Hubs S B Ask Answer} {id : JobId}
  {path : List (Hubs S B Ask Answer × Move B Fault)} {work : Hub.Handling}
  {job : Job Ask Answer} {hub : HubId} {document : DocumentId} {task : Hub.Task}
  {frame : Frame} {allowed : DocumentId → Hub.Task → Prop} {event : Event} {settled : List Event}
  {given : List ((call : Hub.Call) × call.Answer)}

/-- Whether a job was begun by a frame for a document. -/
def Brings (path : List (Hubs S B Ask Answer × Move B Fault)) (id : JobId) (hub : HubId)
    (document : DocumentId) (frame : Frame) : Prop :=
  ∃ begun session bytes, (begun, .frame hub document session bytes) ∈ path ∧
    begun.nextJob = id ∧ Frame.decode bytes = .ok frame

/-- The outcome of handling a frame, by how the section it opened ended. -/
def Reports (frame : Frame) :
    Option (Operation.Ending (Option Bytes) Section.Error) → Hub.Outcome → Prop
  | some (.value handed), outcome => outcome = .ok (frame.replies handed)
  | some (.error (.merge error)), outcome => outcome = .error (.merge error)
  | some (.error (.archive error)), outcome => outcome = .error (.archive error)
  | some (.panic _), outcome => ∃ failure, outcome = .error (.operation failure)
  | none, outcome => ∃ failure, outcome = .error (.operation failure)

theorem mem_recorded {told : Option (Operation.Ending (Option Bytes) Section.Error)} :
    event ∈ recorded id hub document task told ↔
      ∃ ending, told = some ending ∧ event = ⟨id, hub, document, task, ending⟩ := by
  cases told <;> simp [recorded]

namespace Accounts

theorem mem (accounts : Accounts id hub given settled) (member : event ∈ settled) :
    event.hub = hub ∧ ∃ result, ⟨.section event.document event.task, result⟩ ∈ given := by
  induction accounts with
  | start => cases member
  | plain accounts plain ih =>
      obtain ⟨home, result, asked⟩ := ih member
      exact ⟨home, result, List.mem_cons_of_mem _ asked⟩
  | opened accounts tells ih =>
      rcases List.mem_append.mp member with recent | earlier
      · obtain ⟨ending, -, rfl⟩ := mem_recorded.mp recent
        exact ⟨rfl, _, List.mem_cons_self ..⟩
      · obtain ⟨home, result, asked⟩ := ih earlier
        exact ⟨home, result, List.mem_cons_of_mem _ asked⟩

/-- Answers without sections account for no events. -/
theorem of_plain {later : List ((call : Hub.Call) × call.Answer)}
    (accounts : Accounts id hub (later ++ given) settled)
    (plain : ∀ document task result, ⟨.section document task, result⟩ ∉ later) :
    Accounts id hub given settled := by
  induction later generalizing settled with
  | nil => exact accounts
  | cons last later ih =>
      cases accounts with
      | plain accounts _ =>
          refine ih accounts ?_
          intro document task result member
          exact plain document task result (List.mem_cons_of_mem _ member)
      | opened accounts tells => exact absurd (List.mem_cons_self ..) (plain _ _ _)

end Accounts

namespace Stage

/-- Only sections that were allowed have ended. -/
theorem mem (stage : Stage path hubs id work job) (only : Hub.OpensOnly allowed work)
    (member : event ∈ eventsBy id path) :
    event.hub = job.hub ∧ allowed event.document event.task := by
  cases stage with
  | outside unopened leads accounts =>
      obtain ⟨home, result, asked⟩ := accounts.mem member
      exact ⟨home, Hub.opensOnly_given only leads asked⟩
  | inside isOpen rest leads accounts found tells settles =>
      rw [settles] at member
      rcases List.mem_append.mp member with recent | earlier
      · obtain ⟨ending, -, rfl⟩ := mem_recorded.mp recent
        have allows := Hub.opensOnly_rest only leads
        rw [rest] at allows
        exact ⟨rfl, allows.1 _ _ rfl⟩
      · obtain ⟨home, result, asked⟩ := accounts.mem earlier
        exact ⟨home, Hub.opensOnly_given only leads asked⟩

/-- A job that opens one section and no other has one event at most, which tells its
outcome. -/
theorem one_section
    {next : Except (Operation.Failure Section.Error) (Option Bytes) → Hub.Handling}
    (stage : Stage path hubs id (.ask (.section document task) next) job)
    (plain : ∀ result, Hub.OpensOnly (fun _ _ => False) (next result)) :
    ∃ told, eventsBy id path = recorded id job.hub document task told ∧
      ∀ outcome, job.rest = .done outcome →
        ∃ result later, Operation.Phase.Tells (.finished result) told ∧
          (next result).Leads later (.done outcome) := by
  cases stage with
  | outside unopened leads accounts =>
      rcases leads.of_ask with ⟨rfl, rest⟩ | ⟨result, later, rfl, onwards⟩
      · refine ⟨none, ?_, ?_⟩
        · generalize eventsBy id path = settled at accounts
          cases accounts
          rfl
        · intro outcome done
          rw [rest] at done
          cases done
      · have accounts := accounts.of_plain fun document task answer asked =>
          Hub.opensOnly_given (plain result) onwards asked
        generalize eventsBy id path = settled at accounts
        cases accounts with
        | plain accounts plain => exact absurd rfl (plain document task)
        | @opened _ settled _ _ _ told accounts tells =>
            cases accounts
            refine ⟨told, List.append_nil _, ?_⟩
            intro outcome done
            rw [done] at onwards
            exact ⟨result, later, tells, onwards⟩
  | @inside _ _ _ _ _ _ _ _ told isOpen rest leads accounts found tells settles =>
      rw [rest] at leads
      rcases leads.of_ask with ⟨rfl, equal⟩ | ⟨result, later, rfl, onwards⟩
      · cases equal
        cases accounts
        refine ⟨told, settles.trans (List.append_nil _), ?_⟩
        intro outcome done
        rw [rest] at done
        cases done
      · exact ((Hub.opensOnly_rest (plain result) onwards).1 _ _ rfl).elim

end Stage

theorem rest_of_result? {outcome : Hub.Outcome} (result : hubs.result? id = some outcome)
    (found : hubs.jobs.get? id = some job) : job.rest = .done outcome := by
  obtain ⟨hub, rest, opened⟩ := job
  cases rest with
  | done value =>
      simp only [result?, found, Option.some.injEq] at result
      rw [result]
  | ask call next => simp [result?, found] at result

/-- How a section ended shows in how its frame was handled. -/
theorem reports_of_tells
    {next : Except (Operation.Failure Section.Error) (Option Bytes) → Hub.Handling}
    {told : Option (Operation.Ending (Option Bytes) Section.Error)}
    {result : Except (Operation.Failure Section.Error) (Option Bytes)}
    {later : List ((call : Hub.Call) × call.Answer)} {outcome : Hub.Outcome}
    (continues : Hub.Continues frame next)
    (tells : Operation.Phase.Tells (.finished result) told)
    (leads : (next result).Leads later (.done outcome)) : Reports frame told outcome := by
  obtain ⟨resource, ending, rfl, rfl⟩ | ⟨failure, rfl, rfl, unrun⟩ := tells.cases_result
  · cases ending with
    | value handed => exact continues.replies leads
    | error error =>
        rw [Operation.resultOf, continues.fails] at leads
        cases leads.of_done.2
        cases error with
        | merge error => rfl
        | archive error => rfl
    | panic message =>
        rw [Operation.resultOf, continues.fails] at leads
        cases leads.of_done.2
        exact ⟨_, rfl⟩
  · rw [continues.fails] at leads
    cases leads.of_done.2
    cases failure with
    | failed resource cause => exact absurd rfl (unrun resource cause)
    | lockTimeout resource waited => exact ⟨_, rfl⟩
    | unavailable resource source => exact ⟨_, rfl⟩
    | cancelled resource => exact ⟨_, rfl⟩
    | rejected resource => exact ⟨_, rfl⟩

namespace Traced

/-- A sync frame has opened one section at most, and its outcome tells how that ended. -/
theorem of_frame (traced : Traced path hubs) (brings : Brings path id hub document frame)
    (opens : frame.task? = some task) :
    ∃ told, eventsBy id path = recorded id hub document task told ∧
      ∀ outcome, hubs.result? id = some outcome → Reports frame told outcome := by
  obtain ⟨begun, session, bytes, member, rfl, decoded⟩ := brings
  obtain ⟨job, found, rfl, stage⟩ := traced.comes member rfl
  obtain ⟨next, equal, continues⟩ := Hub.handle_of_task opens
  have work : Hub.handleBytes document session bytes = .ask (.section document task) next := by
    rw [Hub.handleBytes, decoded]
    exact equal
  rw [work] at stage
  obtain ⟨told, settles, ends⟩ := stage.one_section continues.plain
  refine ⟨told, settles, ?_⟩
  intro outcome result
  obtain ⟨answer, later, tells, leads⟩ := ends outcome (rest_of_result? result found)
  exact reports_of_tells continues tells leads

/-- A section that has ended was opened by a frame, or by a session that left. -/
theorem of_event (traced : Traced path hubs) (member : event ∈ events path) :
    (∃ frame, Brings path event.job event.hub event.document frame ∧
      frame.task? = some event.task) ∨ event.task = .evict := by
  obtain ⟨begun, move, hub, work, begins, comes, number⟩ := traced.stems (traced.known member)
  obtain ⟨job, found, rfl, stage⟩ := traced.comes begins comes
  rw [number] at stage
  have own : event ∈ eventsBy event.job path := List.mem_filter.mpr ⟨member, by simp⟩
  cases move with
  | frame hub document session bytes =>
      cases comes
      cases decoded : Frame.decode bytes with
      | error error =>
          rw [Hub.handleBytes, decoded] at stage
          have none : Hub.OpensOnly (fun _ _ => False) (.done (.error (.malformed error))) :=
            trivial
          exact (stage.mem none own).2.elim
      | ok frame =>
          rw [Hub.handleBytes, decoded] at stage
          obtain ⟨home, rfl, task⟩ := stage.mem Hub.opensOnly_handle own
          left
          refine ⟨frame, ⟨begun, session, bytes, ?_, number, decoded⟩, task⟩
          rw [home]
          exact begins
  | leave hub document session =>
      cases comes
      exact .inr (stage.mem Hub.opensOnly_dismiss own).2.2
  | _ => cases comes

end Traced

end Hubs

end Coedit
