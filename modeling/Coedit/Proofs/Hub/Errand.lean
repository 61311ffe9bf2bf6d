import Coedit.Proofs.Hub.Foyer
import Coedit.Proofs.Site.Account

/-!
# Errands

A frame that a session sends is an errand: a job begins at hubs in whatever state they
are, and goes on step by step while others do what they like between its steps.  They
leave the job itself alone, and the document too while the body of its section runs.
What the errand does is told step by step: which calls of its take effect in the lease
store, and what changes with each of its moves.
-/

namespace Coedit

namespace Hub

/-- Whether handling opens no section any more and ends without an error. -/
def Succeeds : Handling → Prop
  | .done outcome => ∃ frames, outcome = .ok frames
  | .ask call next =>
      (∀ document task, call ≠ .section document task) ∧ ∀ answer, Succeeds (next answer)

/-- A frame that can be read is handled without an error, but for the one section that it
may open. -/
theorem handle_cases (document : DocumentId) (session : SessionId) (frame : Frame) :
    Succeeds (handle document session frame) ∨
      ∃ task next, task.Consults ∧ (∀ handed, Succeeds (next handed)) ∧
        handle document session frame = inSection document task next := by
  obtain ⟨kind, payload⟩ := frame
  cases kind with
  | sync step =>
      cases step with
      | request =>
          refine .inr ⟨.diff payload, _, trivial, fun handed => ?_, rfl⟩
          exact ⟨_, rfl⟩
      | answer | update =>
          refine .inr ⟨.merge payload, _, trivial, fun handed => ?_, rfl⟩
          cases handed with
          | none => exact ⟨_, rfl⟩
          | some update => exact ⟨by simp, fun _ => ⟨_, rfl⟩⟩
  | awareness => exact .inl ⟨by simp, fun _ => ⟨by simp, fun _ => ⟨_, rfl⟩⟩⟩
  | auth => exact .inl ⟨_, rfl⟩
  | query => exact .inl ⟨by simp, fun _ => ⟨_, rfl⟩⟩

theorem roster_answer (hub : Hub) (now : Instant) (call : Section.Call) :
    (hub.answer now call).2.roster = hub.roster := by
  cases call <;> rfl

end Hub

namespace Hubs

variable {S B Fault Ask : Type} {Answer : Ask → Type}

/-- The job that goes on with a move. -/
def Move.job? : Move B Fault → Option JobId
  | .step id _ | .perform id _ _ | .resume id _ | .consult id _ => some id
  | _ => none

/-- The time when a call takes effect. -/
def Move.time? : Move B Fault → Option Instant
  | .perform _ _ now => some now
  | _ => none

/-- Whether the body of a job's section runs. -/
def Runs (hubs : Hubs S B Ask Answer) (id : JobId) : Prop :=
  ∃ operation, hubs.operation? id = some operation ∧ hubs.site.need? operation = some .body

/-- The call to the lease store that takes effect with a move, and its answer. -/
def call? [Lease.Store S] (hubs : Hubs S B Ask Answer) :
    Move B Fault → Option (Lease.Call × Lease.Reply)
  | .perform id failure now =>
      match (hubs.operation? id).bind hubs.site.operations.get? with
      | none => none
      | some entry =>
          match entry.operation.need?, entry.reply with
          | some (.lock (.call call)), none =>
              some (call, (hubs.site.lockers.call entry.service failure now call).1)
          | _, _ => none
  | _ => none

/-- The calls that took effect on a path, latest first. -/
def calls [Lease.Store S] (path : List (Hubs S B Ask Answer × Move B Fault)) :
    List (Lease.Call × Lease.Reply) :=
  path.filterMap fun at' => at'.1.call? at'.2

theorem calls_cons [Lease.Store S] (hubs : Hubs S B Ask Answer) (move : Move B Fault)
    (path : List (Hubs S B Ask Answer × Move B Fault)) :
    calls ((hubs, move) :: path) = (hubs.call? move).toList ++ calls path := by
  unfold calls
  cases call : hubs.call? move <;> simp [call]

section

variable [Lease.Store S] [Lease.Lawful S] [Medium B Fault Ask Answer]
  {archive : Archive Ask Answer}

/-- A hub that works with an engine and an archive, and keeps its documents apart. -/
structure Reliable (archive : Archive Ask Answer) (engine : Engine) (home : HubId)
    (hubs : Hubs S B Ask Answer) : Prop where
  archive : hubs.archive = archive
  uses {service : ServiceId} {used : Engine} {cache : Cache}
    (found : hubs.core home = some (service, used, cache)) : used = engine ∧ cache.Sound

/-- Whether something can be said of what is stored of a document. -/
def Readable (keeping : archive.Keeping B Fault) (document : DocumentId) (medium : B) : Prop :=
  ∃ places stored, keeping.Holds places medium ∧ keeping.Keeps (places document) stored

/-- What others may do while a job is under way: they leave the job and the operation of
its section alone, come by none of its tokens, and do not touch its document while the body
of its section runs. -/
structure Spares (keeping : archive.Keeping B Fault) (engine : Engine) (own : String → Prop)
    (id : JobId) (home : HubId) (document : DocumentId) (hubs after : Hubs S B Ask Answer) :
    Prop where
  reliable : after.Reliable archive engine home
  job : after.jobs.get? id = hubs.jobs.get? id
  entry (operation : OperationId) (open' : hubs.operation? id = some operation) :
    after.site.operations.get? operation = hubs.site.operations.get? operation
  bars (token : String) (mine : own token) : hubs.site.lockers.Bars after.site.lockers token
  readable (idle : ¬ hubs.Runs id) : Readable keeping document after.medium
  desk (runs : hubs.Runs id) : after.desk home document = hubs.desk home document
  place (runs : hubs.Runs id) (places : DocumentId → keeping.Place)
    (holds : keeping.Holds places hubs.medium) :
    ∃ places', keeping.Holds places' after.medium ∧ places' document = places document

/-- The ways of a frame that comes in at hubs in any state, each with the moves of its job
and the hubs it took them at, latest first, and the time of its last call. -/
inductive Errand (keeping : archive.Keeping B Fault) (engine : Engine) (own : String → Prop)
    (id : JobId) (home : HubId) (document : DocumentId) (session : SessionId) (bytes : Bytes)
    (start : Hubs S B Ask Answer) :
    Instant → List (Hubs S B Ask Answer × Move B Fault) → Hubs S B Ask Answer → Prop where
  | begun {now : Instant} (number : start.nextJob = id)
      (reliable : start.Reliable archive engine home)
      (readable : Readable keeping document start.medium) :
      Errand keeping engine own id home document session bytes start now []
        (start.after (.frame home document session bytes : Move B Fault))
  | goesOn {now : Instant} {path : List (Hubs S B Ask Answer × Move B Fault)}
      {hubs : Hubs S B Ask Answer} {move : Move B Fault}
      (errand : Errand keeping engine own id home document session bytes start now path hubs)
      (aims : move.job? = some id) (onward : ∀ time ∈ move.time?, now ≤ time)
      (consults : ∀ failure, move = .consult id failure → hubs.Permits keeping move) :
      Errand keeping engine own id home document session bytes start (move.time?.getD now)
        ((hubs, move) :: path) (hubs.after move)
  | others {now : Instant} {path : List (Hubs S B Ask Answer × Move B Fault)}
      {hubs after : Hubs S B Ask Answer}
      (errand : Errand keeping engine own id home document session bytes start now path hubs)
      (spares : Spares keeping engine own id home document hubs after) :
      Errand keeping engine own id home document session bytes start now path after

/-- An errand goes on with some moves at one time. -/
theorem Errand.of_moves {keeping : archive.Keeping B Fault} {engine : Engine}
    {own : String → Prop} {id : JobId} {home : HubId} {document : DocumentId}
    {session : SessionId} {bytes : Bytes} {start hubs : Hubs S B Ask Answer} {now : Instant}
    {path : List (Hubs S B Ask Answer × Move B Fault)} {moves : List (Move B Fault)}
    (errand : Errand keeping engine own id home document session bytes start now path hubs)
    (aims : ∀ move ∈ moves, move.job? = some id) (still : ∀ move ∈ moves, move.time?.getD now = now)
    (permitted : hubs.PermitsAll keeping moves) :
    Errand keeping engine own id home document session bytes start now (hubs.trail moves path)
      (hubs.afterAll moves) := by
  induction moves generalizing hubs path with
  | nil => exact errand
  | cons move moves ih =>
      have onward : ∀ time ∈ move.time?, now ≤ time := by
        intro time member
        have same := still move List.mem_cons_self
        rw [Option.mem_def.mp member, Option.getD_some] at same
        rw [same]
        exact Nat.le_refl _
      have further := errand.goesOn (aims move List.mem_cons_self) onward fun _ _ => permitted.1
      rw [still move List.mem_cons_self] at further
      exact ih further (fun next member => aims next (List.mem_cons_of_mem _ member))
        (fun next member => still next (List.mem_cons_of_mem _ member)) permitted.2

/-- A move with which nothing changes that matters to anybody else: at most its document is
taken into memory as it is stored, and while the body of its section runs the archive may
work on its document. -/
structure Harmless (keeping : archive.Keeping B Fault) (id : JobId) (home : HubId)
    (document : DocumentId) (hubs after : Hubs S B Ask Answer) : Prop where
  rosters (hub : HubId) : after.roster? hub = hubs.roster? hub
  desks (hub : HubId) (other : DocumentId) (apart : (hub, other) ≠ (home, document)) :
    after.desk hub other = hubs.desk hub other
  desk : after.desk home document = hubs.desk home document ∨
    ∃ cell now, after.desk home document =
      some (cell, .ofSnapshot ((keeping.stored hubs.medium document).getD Section.unstored) now)
  medium : after.medium = hubs.medium ∨ hubs.Runs id ∧ ∃ places place,
    keeping.Holds places hubs.medium ∧
      keeping.Holds (Function.update places document place) after.medium

end

/-! ## What the job's own moves do -/

section

variable {hubs after : Hubs S B Ask Answer} {move : Move B Fault} {id : JobId} {home : HubId}
  {document : DocumentId} {job : Job Ask Answer} {operation : OperationId}
  {body : Section Ask Answer (Option Bytes)}

theorem Reliable.of_core {archive : Archive Ask Answer} {engine : Engine}
    (reliable : hubs.Reliable archive engine home) (archives : after.archive = hubs.archive)
    (core : ∀ hub, after.core hub = hubs.core hub) : after.Reliable archive engine home := by
  refine ⟨archives.trans reliable.archive, ?_⟩
  intro service used cache found
  rw [core] at found
  exact reliable.uses found

theorem operation?_of_found (found : hubs.jobs.get? id = some job)
    (isOpen : job.opened = some (operation, body)) : hubs.operation? id = some operation := by
  simp [operation?, found, isOpen]

theorem runs_iff (opens : hubs.operation? id = some operation)
    {entry : Site.Entry (Option Bytes) Section.Error}
    (found : hubs.site.operations.get? operation = some entry) :
    hubs.Runs id ↔ entry.IsRunning := by
  constructor
  · rintro ⟨other, opens', need⟩
    cases opens.symm.trans opens'
    rw [Site.need?_of_found found] at need
    exact Site.Entry.running_of_need? need
  · intro running
    refine ⟨operation, opens, ?_⟩
    rw [Site.need?_of_found found, Site.Entry.need?_of_running running]

theorem not_runs_of_closed (found : hubs.jobs.get? id = some job) (closed : job.opened = none) :
    ¬ hubs.Runs id := by
  rintro ⟨operation, opens, -⟩
  simp [operation?, found, closed] at opens

theorem ending?_of_closed (found : hubs.jobs.get? id = some job) (closed : job.opened = none)
    (moment : Lock.Moment) : hubs.ending? (.step id moment : Move B Fault) = none := by
  refine ending?_step_eq_none ?_
  intro other call next operation ending otherFound rest isOpen
  cases found.symm.trans otherFound
  rw [closed] at isOpen
  cases isOpen

theorem roster?_stepSection {hub : Hub} (hubFound : hubs.hubs.get? job.hub = some hub)
    (operation : OperationId) (body : Section Ask Answer (Option Bytes)) (moment : Lock.Moment)
    (other : HubId) :
    (hubs.stepSection id job hub operation body moment).roster? other = hubs.roster? other := by
  unfold stepSection
  split
  · rfl
  · split
    · rfl
    · next call next =>
        change (hubs.setHub job.hub (hub.answer (moment.clock 0) call).2).roster? other = _
        rw [Foyer.roster?_setHub, Hub.roster_answer]
        split
        · next same => rw [← same, Foyer.roster?_of_found hubFound]
        · rfl
    · rfl
  · rfl
  · split <;> rfl

variable [Lease.Store S] [Medium B Fault Ask Answer]

/-- A job with an open section leaves all rosters alone. -/
theorem roster?_after (found : hubs.jobs.get? id = some job)
    (isOpen : job.opened = some (operation, body)) (aims : move.job? = some id) (other : HubId) :
    (hubs.after move).roster? other = hubs.roster? other := by
  cases move with
  | step target moment =>
      cases aims
      simp only [Hubs.after, step, found]
      split
      · next unopened =>
          rw [isOpen] at unopened
          cases unopened
      · next hubFound rest isOpen => exact roster?_stepSection hubFound _ _ moment other
      · rfl
  | perform target failure now =>
      simp only [Hubs.after, performCall]
      split <;> rfl
  | resume target moment =>
      simp only [Hubs.after, resume]
      split <;> rfl
  | consult target failure =>
      simp only [Hubs.after, consult]
      split
      · split <;> rfl
      · rfl
  | _ => cases aims

/-- A job without an open section does nothing but make its next call. -/
theorem after_of_closed (found : hubs.jobs.get? id = some job) (closed : job.opened = none)
    (aims : move.job? = some id) :
    hubs.ending? move = none ∧ hubs.call? move = none ∧
      (hubs.after move = hubs ∨ ∃ hub call next,
        job.rest = .ask call next ∧ hubs.hubs.get? job.hub = some hub ∧
          hubs.after move = hubs.answer id job hub call next) := by
  cases move with
  | step target moment =>
      cases aims
      refine ⟨ending?_of_closed found closed moment, rfl, ?_⟩
      simp only [Hubs.after, step, found]
      split
      · next hub call next hubFound rest unopened =>
          exact .inr ⟨hub, call, next, rest, hubFound, rfl⟩
      · next isOpen =>
          rw [closed] at isOpen
          cases isOpen
      · exact .inl rfl
  | perform target failure now =>
      cases aims
      simp [Hubs.after, performCall, call?, operation?, found, closed, ending?]
  | resume target moment =>
      cases aims
      simp [Hubs.after, resume, call?, operation?, found, closed, ending?]
  | consult target failure =>
      cases aims
      simp [Hubs.after, consult, call?, found, closed, ending?]
  | _ => cases aims

omit [Lease.Store S] [Medium B Fault Ask Answer] in
/-- A call that opens no section changes nothing but the job and a roster. -/
theorem answer_plain (id : JobId) {hub : Hub} (hubFound : hubs.hubs.get? job.hub = some hub)
    {call : Hub.Call} (plain : ∀ document task, call ≠ .section document task)
    (next : call.Answer → Hub.Handling) :
    ∃ answer, (hubs.answer id job hub call next).jobs.get? id =
        some { job with rest := next answer } ∧
      (∀ other, (hubs.answer id job hub call next).core other = hubs.core other) ∧
      (hubs.answer id job hub call next).archive = hubs.archive := by
  cases call with
  | «section» document task => exact absurd rfl (plain document task)
  | presences document => exact ⟨_, Table.get?_insert_self .., fun _ => rfl, rfl⟩
  | isLoaded document => exact ⟨_, Table.get?_insert_self .., fun _ => rfl, rfl⟩
  | _ => exact ⟨_, Table.get?_insert_self .., core_setHub hubFound rfl rfl rfl, rfl⟩

theorem after_perform (opens : hubs.operation? id = some operation)
    (failure : Option StoreError) (now : Instant) :
    hubs.after (.perform id failure now : Move B Fault) =
      { hubs with site := hubs.site.perform operation failure now } := by
  simp only [Hubs.after, performCall, opens]

theorem after_resume (opens : hubs.operation? id = some operation) (moment : Lock.Moment) :
    hubs.after (.resume id moment : Move B Fault) =
      { hubs with site := hubs.site.resume operation moment } := by
  simp only [Hubs.after, resume, opens]

omit [Medium B Fault Ask Answer] in
/-- Either a call takes effect for the operation of a job's section, or nothing happens. -/
theorem call?_perform (opens : hubs.operation? id = some operation)
    {entry : Site.Entry (Option Bytes) Section.Error}
    (found : hubs.site.operations.get? operation = some entry) (failure : Option StoreError)
    (now : Instant) :
    (∃ call, entry.operation.need? = some (.lock (.call call)) ∧ entry.reply = none ∧
        hubs.call? (.perform id failure now : Move B Fault) =
          some (call, (hubs.site.lockers.call entry.service failure now call).1)) ∨
      hubs.site.perform operation failure now = hubs.site ∧
        hubs.call? (.perform id failure now : Move B Fault) = none := by
  simp only [call?, opens, Option.bind_some, found]
  split
  · next call need unanswered => exact .inl ⟨call, need, unanswered, rfl⟩
  · next idle =>
      refine .inr ⟨Site.perform_of_no_need ?_ failure now, rfl⟩
      intro other call otherFound need unanswered
      cases found.symm.trans otherFound
      exact idle call need unanswered

/-- Sessions that come and go and frames that come in spare an errand, and so does time. -/
theorem spares_of_jobless [Lease.Lawful S] {archive : Archive Ask Answer}
    {keeping : archive.Keeping B Fault} {engine : Engine} (own : String → Prop)
    (jobless : move.job? = none) (permitted : hubs.Permits keeping move)
    (begun : hubs.nextJob ≠ id) (reliable : hubs.Reliable archive engine home)
    (readable : Readable keeping document hubs.medium) :
    Spares keeping engine own id home document hubs (hubs.after move) := by
  have spares : (hubs.after move).archive = hubs.archive →
      (hubs.after move).jobs.get? id = hubs.jobs.get? id →
      (hubs.after move).site = hubs.site →
      (∀ hub, (hubs.after move).core hub = hubs.core hub) →
      (∀ places, keeping.Holds places hubs.medium → keeping.Holds places (hubs.after move).medium) →
      Spares keeping engine own id home document hubs (hubs.after move) := by
    intro archives job site core holds
    refine ⟨reliable.of_core archives core, job, ?_, ?_, ?_, ?_, ?_⟩
    · intro operation opens
      rw [site]
    · intro token mine
      rw [site]
      exact Lock.Lockers.Bars.refl _ token
    · intro idle
      obtain ⟨places, stored, held, keeps⟩ := readable
      exact ⟨places, stored, holds places held, keeps⟩
    · intro runs
      exact desk_of_core core home document
    · intro runs places held
      exact ⟨places, holds places held, rfl⟩
  have effect : hubs.Effect move _ := effect_after move
  cases effect with
  | quiet idle silent beside site medium core jobs =>
      exact spares beside.archive (by rw [jobs]) site core fun places held => medium ▸ held
  | begun begins archive next site medium core jobs silent =>
      refine spares archive ?_ site core fun places held => medium ▸ held
      rw [jobs, Table.get?_insert, if_neg begun]
  | drifted beside site medium core jobs =>
      refine spares beside.archive (by rw [jobs]) site core fun places held => ?_
      exact keeping.holds_of_drifts held (medium ▸ permitted)
  | locked idle silent found isOpen kind =>
      rcases kind with ⟨moment, -, rfl | rfl⟩ | ⟨failure, now, -, rfl⟩ <;> cases jobless
  | _ => cases jobless

end

end Hubs

end Coedit
