import Coedit.Proofs.Hub.Run
import Coedit.Proofs.Site.Bodies

/-!
# Open sections

Each section that a job has open is an operation of its own at the site, under the key
of its document.  Two sections of one document are therefore never inside their bodies
at the same time.
-/

namespace Coedit

namespace Hubs

variable {S B Fault Ask : Type} {Answer : Ask → Type}

/-- What the section is that a job has open. -/
def Opens (engine : Engine) (hubs : Hubs S B Ask Answer) (job : Job Ask Answer)
    (operation : OperationId) (body : Section Ask Answer (Option Bytes)) : Prop :=
  ∃ document task next entry, job.rest = .ask (.section document task) next ∧
    hubs.site.operations.get? operation = some entry ∧
    entry.operation.plan = .document document ∧
    (entry.IsWaiting → body = Hubs.body hubs.archive engine document task) ∧
    (hubs.core job.hub).isSome

/-- Every open section is an operation of its own, whose body is untouched before its
lock is had. -/
structure Orderly (archive : Archive Ask Answer) (engine : Engine)
    (hubs : Hubs S B Ask Answer) : Prop where
  archive : hubs.archive = archive
  uses {id : HubId} {service : ServiceId} {used : Engine} {cache : Cache}
    (found : hubs.core id = some (service, used, cache)) : used = engine
  numbered {id : JobId} {job : Job Ask Answer} (found : hubs.jobs.get? id = some job) :
    id < hubs.nextJob
  opens {id : JobId} {job : Job Ask Answer} {operation : OperationId}
    {body : Section Ask Answer (Option Bytes)} (found : hubs.jobs.get? id = some job)
    (isOpen : job.opened = some (operation, body)) : hubs.Opens engine job operation body
  apart {id other : JobId} {job rival : Job Ask Answer} {operation : OperationId}
    {body beside : Section Ask Answer (Option Bytes)} (found : hubs.jobs.get? id = some job)
    (isOpen : job.opened = some (operation, body))
    (rivalFound : hubs.jobs.get? other = some rival)
    (shared : rival.opened = some (operation, beside)) : id = other

section

variable [Lease.Store S] [Lease.Lawful S] [Medium B Fault Ask Answer]
  {archive : Archive Ask Answer} {keeping : archive.Keeping B Fault} {engine : Engine}
  {hubs after : Hubs S B Ask Answer} {move : Move B Fault}

omit [Lease.Lawful S] in
theorem archive_of_effect (effect : hubs.Effect move after) : after.archive = hubs.archive := by
  cases effect with
  | begun _ archive => exact archive
  | quiet _ _ beside => exact beside.archive
  | replied _ _ _ beside => exact beside.archive
  | refused _ _ _ beside => exact beside.archive
  | opened _ _ _ _ beside => exact beside.archive
  | locked _ _ _ _ _ beside => exact beside.archive
  | ended _ _ _ _ _ beside => exact beside.archive
  | asked _ _ _ _ beside => exact beside.archive
  | consulted _ _ beside => exact beside.archive
  | closed _ _ _ _ beside => exact beside.archive
  | drifted beside => exact beside.archive

theorem core_answer (hub : Hub) (now : Instant) (call : Section.Call) :
    (hub.answer now call).2.service = hub.service ∧
      (hub.answer now call).2.engine = hub.engine := by
  cases call <;> exact ⟨rfl, rfl⟩

omit [Lease.Lawful S] in
/-- A move changes nothing about hubs but what they have loaded. -/
theorem core_of_effect (effect : hubs.Effect move after) (id : HubId) :
    (after.core id).map (fun core => (core.1, core.2.1)) =
      (hubs.core id).map fun core => (core.1, core.2.1) := by
  cases effect with
  | asked found hubFound isOpen runs beside site medium table jobs =>
      unfold core
      rw [table, Table.get?_insert]
      split
      · next same =>
          rw [← same, hubFound]
          simp [core_answer]
      · rfl
  | begun _ _ _ _ _ core => rw [core]
  | quiet _ _ _ _ _ core => rw [core]
  | replied _ _ _ _ _ _ core => rw [core]
  | refused _ _ _ _ _ _ core => rw [core]
  | opened _ _ _ _ _ _ _ _ core => rw [core]
  | locked _ _ _ _ _ _ _ _ core => rw [core]
  | ended _ _ _ _ _ _ _ _ core => rw [core]
  | consulted _ _ _ _ _ core => rw [core]
  | closed _ _ _ _ _ _ _ core => rw [core]
  | drifted _ _ _ core => rw [core]

/-- No operation is lost, none gets another plan, and none waits again. -/
theorem remains_of_effect (exclusive : hubs.site.Exclusive) (effect : hubs.Effect move after)
    (permitted : hubs.Permits keeping move) {operation : OperationId}
    {entry : Site.Entry (Option Bytes) Section.Error}
    (found : hubs.site.operations.get? operation = some entry) :
    ∃ later, after.site.operations.get? operation = some later ∧
      later.operation.plan = entry.operation.plan ∧ (later.IsWaiting → entry.IsWaiting) := by
  rcases site_of_effect effect permitted with same | ⟨siteMove, -, same⟩
  · rw [same]
    exact ⟨entry, found, rfl, fun waits => waits⟩
  · rw [same]
    exact exclusive.remains (Site.effect_after siteMove) found

/-- An open section stays what it is, whatever happens elsewhere. -/
theorem Opens.remains {job : Job Ask Answer} {operation : OperationId}
    {body : Section Ask Answer (Option Bytes)} (opens : hubs.Opens engine job operation body)
    (exclusive : hubs.site.Exclusive) (effect : hubs.Effect move after)
    (permitted : hubs.Permits keeping move) : after.Opens engine job operation body := by
  obtain ⟨document, task, next, entry, rest, found, plan, untouched, present⟩ := opens
  obtain ⟨later, laterFound, laterPlan, waits⟩ :=
    remains_of_effect exclusive effect permitted found
  refine ⟨document, task, next, later, rest, laterFound, laterPlan.trans plan, ?_, ?_⟩
  · intro waiting
    rw [archive_of_effect effect]
    exact untouched (waits waiting)
  · have same := congrArg Option.isSome (core_of_effect effect job.hub)
    simp only [Option.isSome_map] at same
    rw [same, present]

omit [Lease.Store S] [Lease.Lawful S] in
/-- What a job does in its section it does while the section runs. -/
theorem Opens.continues {job : Job Ask Answer} {operation : OperationId}
    {body rest : Section Ask Answer (Option Bytes)}
    (opens : hubs.Opens engine job operation body)
    (runs : hubs.site.need? operation = some .body) :
    hubs.Opens engine (job.within operation rest) operation rest := by
  obtain ⟨document, task, next, entry, asks, found, plan, -, present⟩ := opens
  refine ⟨document, task, next, entry, asks, found, plan, ?_, present⟩
  intro waiting
  simp only [Site.need?, Site.operation?, found, Option.map_some, Option.bind_some] at runs
  exact absurd (Site.Entry.running_of_need? runs) (Site.Entry.not_running_of_waiting waiting)

omit [Lease.Store S] [Lease.Lawful S] in
/-- A job of hubs of which one job has changed. -/
theorem job_cases {id other : JobId} {changed job : Job Ask Answer}
    (jobs : ∀ other, after.jobs.get? other =
      if id = other then some changed else hubs.jobs.get? other)
    (found : after.jobs.get? other = some job) :
    id = other ∧ job = changed ∨ id ≠ other ∧ hubs.jobs.get? other = some job := by
  rw [jobs] at found
  split at found
  · next same => exact .inl ⟨same, (Option.some.inj found).symm⟩
  · next apart => exact .inr ⟨apart, found⟩

omit [Lease.Store S] [Lease.Lawful S] [Medium B Fault Ask Answer] in
/-- A job turns to the archive only from within its section. -/
theorem body_of_need? {id : JobId} {job : Job Ask Answer} {operation : OperationId}
    {body : Section Ask Answer (Option Bytes)} (need : hubs.need? id = some .archive)
    (found : hubs.jobs.get? id = some job) (isOpen : job.opened = some (operation, body)) :
    hubs.site.need? operation = some .body := by
  unfold need? at need
  simp only [found, isOpen] at need
  split at need
  · cases need
  · split at need
    · cases need
    · next runs => exact runs
    · cases need

namespace Orderly

omit [Lease.Lawful S] in
theorem uses_of_effect (orderly : hubs.Orderly archive engine) (effect : hubs.Effect move after)
    {id : HubId} {service : ServiceId} {used : Engine} {cache : Cache}
    (found : after.core id = some (service, used, cache)) : used = engine := by
  have same := core_of_effect effect id
  rw [found] at same
  obtain ⟨⟨_, _, old⟩, before, equal⟩ := Option.map_eq_some_iff.mp same.symm
  cases equal
  exact orderly.uses before

/-- Order is kept if no job changes. -/
theorem transfer (orderly : hubs.Orderly archive engine) (exclusive : hubs.site.Exclusive)
    (effect : hubs.Effect move after) (permitted : hubs.Permits keeping move)
    (next : after.nextJob = hubs.nextJob) (jobs : after.jobs = hubs.jobs) :
    after.Orderly archive engine := by
  refine ⟨(archive_of_effect effect).trans orderly.archive, orderly.uses_of_effect effect,
    ?_, ?_, ?_⟩
  · intro id job found
    rw [next]
    exact orderly.numbered (jobs ▸ found)
  · intro id job operation body found isOpen
    exact (orderly.opens (jobs ▸ found) isOpen).remains exclusive effect permitted
  · intro id other job rival operation body beside found isOpen rivalFound shared
    exact orderly.apart (jobs ▸ found) isOpen (jobs ▸ rivalFound) shared

/-- Order is kept if one job changes whose section, if it has one now, is in order. -/
theorem changed (orderly : hubs.Orderly archive engine) (exclusive : hubs.site.Exclusive)
    (effect : hubs.Effect move after) (permitted : hubs.Permits keeping move)
    (next : after.nextJob = hubs.nextJob) {id : JobId} {job changed : Job Ask Answer}
    (found : hubs.jobs.get? id = some job)
    (jobs : ∀ other, after.jobs.get? other =
      if id = other then some changed else hubs.jobs.get? other)
    (opens : ∀ operation body, changed.opened = some (operation, body) →
      after.Opens engine changed operation body ∧
        ∀ other rival beside, id ≠ other → hubs.jobs.get? other = some rival →
          rival.opened ≠ some (operation, beside)) :
    after.Orderly archive engine := by
  refine ⟨(archive_of_effect effect).trans orderly.archive, orderly.uses_of_effect effect,
    ?_, ?_, ?_⟩
  · intro other rival rivalFound
    rw [next]
    rcases job_cases jobs rivalFound with ⟨rfl, -⟩ | ⟨-, rivalFound⟩
    · exact orderly.numbered found
    · exact orderly.numbered rivalFound
  · intro other rival operation body rivalFound isOpen
    rcases job_cases jobs rivalFound with ⟨rfl, rfl⟩ | ⟨-, rivalFound⟩
    · exact (opens operation body isOpen).1
    · exact (orderly.opens rivalFound isOpen).remains exclusive effect permitted
  · intro left right leftJob rightJob operation body beside leftFound isOpen rightFound shared
    rcases job_cases jobs leftFound with ⟨rfl, rfl⟩ | ⟨apart, leftFound⟩
    · rcases job_cases jobs rightFound with ⟨same, -⟩ | ⟨apart, rightFound⟩
      · exact same
      · exact absurd shared ((opens operation body isOpen).2 right rightJob beside apart rightFound)
    · rcases job_cases jobs rightFound with ⟨rfl, rfl⟩ | ⟨-, rightFound⟩
      · exact absurd isOpen ((opens operation beside shared).2 left leftJob body apart leftFound)
      · exact orderly.apart leftFound isOpen rightFound shared

/-- A new job has no section open. -/
theorem begun (orderly : hubs.Orderly archive engine) (exclusive : hubs.site.Exclusive)
    (effect : hubs.Effect move after) (permitted : hubs.Permits keeping move)
    (next : after.nextJob = hubs.nextJob + 1) {hub : HubId} {work : Hub.Handling}
    (jobs : after.jobs = hubs.jobs.insert hubs.nextJob ⟨hub, work, none⟩) :
    after.Orderly archive engine := by
  have cases : ∀ other, after.jobs.get? other =
      if hubs.nextJob = other then some ⟨hub, work, none⟩ else hubs.jobs.get? other := by
    intro other
    rw [jobs]
    exact Table.get?_insert ..
  refine ⟨(archive_of_effect effect).trans orderly.archive, orderly.uses_of_effect effect,
    ?_, ?_, ?_⟩
  · intro id job found
    rw [next]
    rcases job_cases cases found with ⟨rfl, -⟩ | ⟨-, found⟩
    · exact Nat.lt_succ_self _
    · exact Nat.lt_succ_of_lt (orderly.numbered found)
  · intro id job operation body found isOpen
    rcases job_cases cases found with ⟨-, rfl⟩ | ⟨-, found⟩
    · cases isOpen
    · exact (orderly.opens found isOpen).remains exclusive effect permitted
  · intro id other job rival operation body beside found isOpen rivalFound shared
    rcases job_cases cases found with ⟨-, rfl⟩ | ⟨-, found⟩
    · cases isOpen
    rcases job_cases cases rivalFound with ⟨-, rfl⟩ | ⟨-, rivalFound⟩
    · cases shared
    exact orderly.apart found isOpen rivalFound shared

/-- Every permitted move keeps order. -/
theorem step (orderly : hubs.Orderly archive engine) (exclusive : hubs.site.Exclusive)
    (effect : hubs.Effect move after) (permitted : hubs.Permits keeping move) :
    after.Orderly archive engine := by
  have alone : ∀ {id : JobId} {job : Job Ask Answer} {operation : OperationId}
      {body : Section Ask Answer (Option Bytes)}, hubs.jobs.get? id = some job →
      job.opened = some (operation, body) → ∀ other rival beside, id ≠ other →
      hubs.jobs.get? other = some rival → rival.opened ≠ some (operation, beside) := by
    intro id job operation body found isOpen other rival beside apart rivalFound shared
    exact apart (orderly.apart found isOpen rivalFound shared)
  have whole := effect
  cases effect with
  | quiet _ _ beside _ _ _ jobs => exact orderly.transfer exclusive whole permitted beside.next jobs
  | locked _ _ _ _ _ beside _ _ _ jobs =>
      exact orderly.transfer exclusive whole permitted beside.next jobs
  | ended _ _ _ _ _ beside _ _ _ jobs =>
      exact orderly.transfer exclusive whole permitted beside.next jobs
  | drifted beside _ _ _ jobs => exact orderly.transfer exclusive whole permitted beside.next jobs
  | replied found _ _ beside _ _ _ jobs =>
      refine orderly.changed exclusive whole permitted beside.next found jobs ?_
      intro operation body isOpen
      cases isOpen
  | refused found _ _ beside _ _ _ jobs =>
      refine orderly.changed exclusive whole permitted beside.next found jobs ?_
      intro operation body isOpen
      cases isOpen
  | closed found _ _ _ beside _ _ _ jobs =>
      refine orderly.changed exclusive whole permitted beside.next found jobs ?_
      intro operation body isOpen
      cases isOpen
  | asked found hubFound isOpen runs beside _ _ _ jobs =>
      refine orderly.changed exclusive whole permitted beside.next found jobs ?_
      rintro operation body ⟨⟩
      refine ⟨?_, alone found isOpen⟩
      exact ((orderly.opens found isOpen).continues runs).remains exclusive whole permitted
  | consulted found isOpen beside _ _ _ jobs =>
      refine orderly.changed exclusive whole permitted beside.next found jobs ?_
      rintro operation body ⟨⟩
      refine ⟨?_, alone found isOpen⟩
      have runs := body_of_need? permitted.1 found isOpen
      exact ((orderly.opens found isOpen).continues runs).remains exclusive whole permitted
  | opened found hubFound rest unopened beside accepted site _ core jobs =>
      refine orderly.changed exclusive whole permitted beside.next found jobs ?_
      rintro operation body ⟨⟩
      constructor
      · obtain ⟨settings, maxWait, entered⟩ := Site.get?_enter accepted (.document _) none
        rw [← site] at entered
        refine ⟨_, _, _, _, rest, entered, rfl, ?_, ?_⟩
        · intro _
          rw [orderly.uses (core_of_hub hubFound), beside.archive]
        · rw [core, Job.within, core_of_hub hubFound]
          rfl
      · intro other rival beside' apart rivalFound shared
        obtain ⟨_, _, _, entry, _, entryFound, _⟩ := orderly.opens rivalFound shared
        exact Nat.lt_irrefl _ (exclusive.numbered entryFound)
  | begun begins archive next _ _ core jobs => exact orderly.begun exclusive whole permitted next jobs

end Orderly

end

end Hubs

end Coedit
