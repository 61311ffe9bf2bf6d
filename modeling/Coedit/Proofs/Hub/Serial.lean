import Coedit.Proofs.Hub.History

/-!
# Runs are serial

Every move of every job leaves each document where a history puts it: a section takes
what is loaded and what is stored over from the one before it, and hands on what it has
done when its body ends.
-/

namespace Coedit

namespace Hubs

variable {S B Fault Ask : Type} {Answer : Ask → Type} [Lease.Store S] [Lease.Lawful S]
  [Medium B Fault Ask Answer] {archive : Archive Ask Answer} {keeping : archive.Keeping B Fault}
  {engine : Engine} {first : DocumentId → keeping.Place}
  {path : List (Hubs S B Ask Answer × Move B Fault)} {hubs after : Hubs S B Ask Answer}
  {places later : DocumentId → keeping.Place} {move : Move B Fault} {id : JobId}
  {document : DocumentId} {task : Hub.Task} {hub : HubId}
  {body body' : Section Ask Answer (Option Bytes)}

namespace Kept

omit [Lease.Store S] [Lease.Lawful S] in
/-- A move that matters to one document, for which one job goes on. -/
theorem touch (kept : Kept keeping engine first path hubs places)
    (asks : hubs.AsksFor id document) (asksStill : after.AsksFor id document)
    (others : ∀ {other document task hub body}, id ≠ other →
      (after.Serves other document task hub body ↔ hubs.Serves other document task hub body))
    (silent : ∀ event, hubs.ending? move = some event → event.document = document)
    (sound : ∀ {id service used cache}, after.core id = some (service, used, cache) → cache.Sound)
    (desks : ∀ id document', document' ≠ document →
      after.desk id document' = hubs.desk id document')
    (holds : keeping.Holds later after.medium)
    (place : ∀ document', document' ≠ document → later document' = places document')
    (standing : Standing keeping engine first ((hubs, move) :: path) after later document) :
    Kept keeping engine first ((hubs, move) :: path) after later := by
  refine ⟨sound, holds, ?_⟩
  intro document'
  by_cases same : document' = document
  · cases same
    exact standing
  · have events : eventsOf document' ((hubs, move) :: path) = eventsOf document' path := by
      cases ends : hubs.ending? move with
      | none => exact eventsOf_silent ends
      | some event =>
          refine eventsOf_other ends ?_
          intro equal
          exact same (equal.symm.trans (silent event ends))
    exact (kept.standing document').transfer events
      (serves_iff_elsewhere asks asksStill others same) (fun id => desks id document' same)
      (place document' same)

/-- The job inside a section asks and is answered. -/
theorem advance (kept : Kept keeping engine first path hubs places)
    (orderly : hubs.Orderly archive engine) (exclusive : hubs.site.Exclusive)
    (serves : hubs.Serves id document task hub body)
    (serves' : after.Serves id document task hub body')
    (others : ∀ {other document task hub body}, id ≠ other →
      (after.Serves other document task hub body ↔ hubs.Serves other document task hub body))
    (silent : hubs.ending? move = none)
    (sound : ∀ {id service used cache}, after.core id = some (service, used, cache) → cache.Sound)
    (desks : ∀ id document', (id = hub → document' ≠ document) →
      after.desk id document' = hubs.desk id document')
    (holds : keeping.Holds later after.medium)
    (place : ∀ document', document' ≠ document → later document' = places document')
    (safe : ∀ origin post,
      body.Safe (Section.rules keeping document origin task.Consults) post
        (hubs.desk hub document, places document) →
      body'.Safe (Section.rules keeping document origin task.Consults) post
        (after.desk hub document, later document)) :
    Kept keeping engine first ((hubs, move) :: path) after later := by
  refine kept.touch serves.asksFor serves'.asksFor others ?_ sound ?_ holds place ?_
  · intro event ends
    rw [silent] at ends
    cases ends
  · intro id document' apart
    exact desks id document' fun _ => apart
  · constructor
    · intro quiet
      exact absurd ⟨id, task, hub, body', serves'⟩ quiet
    · intro other task' hub' body'' rival
      have same : id = other := by
        by_contra apart
        exact apart (serves.sole orderly exclusive ((others apart).mp rival))
      cases same
      obtain ⟨-, rfl, rfl, rfl⟩ := serves'.functional rival
      obtain ⟨desks', place', working⟩ := (kept.standing document).working serves
      refine ⟨desks', place', working.clean, ?_,
        working.told.transfer (eventsOf_silent silent), safe _ _ working.safe⟩
      intro other apart
      rw [desks other document fun same => absurd same apart]
      exact working.others other apart

/-- A job gets its lock and enters its section. -/
theorem entered (kept : Kept keeping engine first path hubs places) (steady : engine.IsSteady)
    (orderlyAfter : after.Orderly archive engine) (exclusiveAfter : after.site.Exclusive)
    (asks : hubs.AsksFor id document)
    (outside : ∀ {document task hub body}, ¬ hubs.Serves id document task hub body)
    (serves : after.Serves id document task hub (Hubs.body archive engine document task))
    (others : ∀ {other document task hub body}, id ≠ other →
      (after.Serves other document task hub body ↔ hubs.Serves other document task hub body))
    (silent : hubs.ending? move = none) (core : ∀ id, after.core id = hubs.core id)
    (holds : keeping.Holds places after.medium) :
    Kept keeping engine first ((hubs, move) :: path) after places := by
  have desks := fun id => desk_of_core core id document
  refine kept.touch asks serves.asksFor others ?_ ?_ (fun id document' _ =>
    desk_of_core core id document') holds (fun _ _ => rfl) ?_
  · intro event ends
    rw [silent] at ends
    cases ends
  · intro id service used cache found
    rw [core] at found
    exact kept.sound found
  · have quiet : ¬ hubs.IsBusy document := by
      rintro ⟨other, task', hub', body', rival⟩
      by_cases same : id = other
      · cases same
        exact outside rival
      · exact same (serves.sole orderlyAfter exclusiveAfter ((others same).mpr rival))
    have resting := (kept.standing document).resting quiet
    constructor
    · intro idle
      exact absurd ⟨id, task, hub, _, serves⟩ idle
    · intro other task' hub' body' rival
      cases serves.sole orderlyAfter exclusiveAfter rival
      obtain ⟨-, rfl, rfl, rfl⟩ := serves.functional rival
      refine ⟨fun id => hubs.desk id document, places document, resting.clean,
        fun other _ => desks other, resting.told.transfer (eventsOf_silent silent), ?_⟩
      rw [desks]
      exact Section.body_safe steady task (.inr (resting.clean hub))

omit [Lease.Store S] [Lease.Lawful S] in
/-- What a section has done once its body has ended is the next event of its document. -/
theorem told_of_ended {ending : Operation.Ending (Option Bytes) Section.Error}
    {desks desks' : HubId → Desk} {place place' : keeping.Place}
    (ends : hubs.ending? move = some ⟨id, hub, document, task, ending⟩)
    (told : Told keeping engine first document path desks place)
    (did : Section.AfterBody engine task (desks hub) place ending (desks' hub, place'))
    (others : ∀ id, id ≠ hub → desks' id = desks id) :
    Told keeping engine first document ((hubs, move) :: path) desks' place' := by
  have changed : desks' = Function.update desks hub (desks' hub) := by
    funext other
    by_cases same : other = hub
    · rw [same, Function.update_self]
    · rw [Function.update_of_ne same, others other same]
  unfold Told
  rw [eventsOf_same ends rfl]
  intro initial keeps fitting
  obtain ⟨stored, history, kept⟩ := told initial keeps (fitting.of_suffix (List.suffix_cons ..))
  obtain ⟨after, does, keepsAfter⟩ := did.2 stored kept
  have next : History engine keeping.Leaves initial
      (⟨id, hub, document, task, ending⟩ :: eventsOf document path)
      (Function.update desks hub (desks' hub)) after := history.next does
  rw [← changed] at next
  exact ⟨after, next, keepsAfter fun _ _ => fitting _ List.suffix_rfl _ _ next⟩

/-- A job leaves its section. -/
theorem ended (kept : Kept keeping engine first path hubs places)
    (orderly : hubs.Orderly archive engine) (exclusive : hubs.site.Exclusive)
    {ending : Operation.Ending (Option Bytes) Section.Error}
    (serves : hubs.Serves id document task hub (.done ending))
    (asksStill : after.AsksFor id document)
    (outside : ∀ {document task hub body}, ¬ after.Serves id document task hub body)
    (others : ∀ {other document task hub body}, id ≠ other →
      (after.Serves other document task hub body ↔ hubs.Serves other document task hub body))
    (ends : hubs.ending? move = some ⟨id, hub, document, task, ending⟩)
    (core : ∀ id, after.core id = hubs.core id) (holds : keeping.Holds places after.medium) :
    Kept keeping engine first ((hubs, move) :: path) after places := by
  have desks := fun id => desk_of_core core id document
  refine kept.touch serves.asksFor asksStill others ?_ ?_ (fun id document' _ =>
    desk_of_core core id document') holds (fun _ _ => rfl) ?_
  · intro event ends'
    rw [ends] at ends'
    cases ends'
    rfl
  · intro id service used cache found
    rw [core] at found
    exact kept.sound found
  · obtain ⟨desks', place, working⟩ := (kept.standing document).working serves
    have did : Section.AfterBody engine task (desks' hub) place ending
        (hubs.desk hub document, places document) := working.safe
    constructor
    · intro _
      constructor
      · intro other
        rw [desks]
        by_cases same : other = hub
        · cases same
          exact did.1 (working.clean hub)
        · rw [working.others other same]
          exact working.clean other
      · rw [funext desks]
        exact told_of_ended ends working.told did working.others
    · intro other task' hub' body' rival
      by_cases same : id = other
      · cases same
        exact absurd rival outside
      · exact absurd (serves.sole orderly exclusive ((others same).mp rival)) same

end Kept

/-! ## Moves as they come -/

omit [Lease.Store S] [Lease.Lawful S] [Medium B Fault Ask Answer] in
theorem serves_of_job {job : Job Ask Answer} {operation : OperationId}
    {next : Except (Operation.Failure Section.Error) (Option Bytes) → Hub.Handling}
    (found : hubs.jobs.get? id = some job) (rest : job.rest = .ask (.section document task) next)
    (isOpen : job.opened = some (operation, body))
    (runs : hubs.site.need? operation = some .body) :
    hubs.Serves id document task job.hub body := by
  obtain ⟨hub, _, _⟩ := job
  cases rest
  cases isOpen
  exact ⟨next, operation, found, runs⟩

omit [Lease.Store S] [Lease.Lawful S] [Medium B Fault Ask Answer] in
/-- The operations of other jobs' sections are other operations. -/
theorem Orderly.serves_iff_of_apart (orderly : hubs.Orderly archive engine)
    {job : Job Ask Answer} {operation : OperationId} (found : hubs.jobs.get? id = some job)
    (isOpen : job.opened = some (operation, body)) (jobs : after.jobs = hubs.jobs)
    (needs : ∀ other, operation ≠ other → after.site.need? other = hubs.site.need? other)
    {other : JobId} (apart : id ≠ other) :
    after.Serves other document task hub body' ↔ hubs.Serves other document task hub body' := by
  refine serves_iff_of_same (by rw [jobs]) ?_
  intro rival operation' beside rivalFound shared
  rw [needs]
  rintro rfl
  exact apart (orderly.apart found isOpen rivalFound shared)

omit [Lease.Store S] [Lease.Lawful S] [Medium B Fault Ask Answer] in
theorem ending?_of_done {job : Job Ask Answer} {operation : OperationId}
    {ending : Operation.Ending (Option Bytes) Section.Error}
    {next : Except (Operation.Failure Section.Error) (Option Bytes) → Hub.Handling}
    {answering : Hub} (found : hubs.jobs.get? id = some job)
    (hubFound : hubs.hubs.get? job.hub = some answering)
    (rest : job.rest = .ask (.section document task) next)
    (isOpen : job.opened = some (operation, .done ending))
    (runs : hubs.site.need? operation = some .body) (moment : Lock.Moment) :
    hubs.ending? (.step id moment : Move B Fault) =
      some ⟨id, job.hub, document, task, ending⟩ := by
  obtain ⟨hub, _, _⟩ := job
  cases rest
  cases isOpen
  have present : hubs.hubs.contains hub := by simp [Table.contains, hubFound]
  simp only [ending?, found, runs, present, and_self, if_true]

omit [Lease.Store S] [Lease.Lawful S] [Medium B Fault Ask Answer] in
theorem desk_of_hub {found : Hub} (hubFound : hubs.hubs.get? hub = some found) :
    hubs.desk hub document = found.cache.desk document := by
  unfold desk
  rw [core_of_hub hubFound]

omit [Lease.Store S] [Lease.Lawful S] [Medium B Fault Ask Answer] in
/-- The hub answers a call of a section by the rules, and nothing else that is loaded
changes. -/
theorem answered_of_sound {now : Instant} {answering : Hub} {call : Section.Call}
    (hubFound : hubs.hubs.get? hub = some answering) (sound : answering.cache.Sound)
    (may : Section.MayCall document (hubs.desk hub document) call)
    (table : after.hubs = hubs.hubs.insert hub (answering.answer now call).2) :
    Section.Answered (hubs.desk hub document) call (answering.answer now call).1
        (after.desk hub document) ∧
      (∀ {id service used cache}, after.core id = some (service, used, cache) →
        (id = hub → used = answering.engine ∧ cache.Sound) ∧
          (hub ≠ id → hubs.core id = some (service, used, cache))) ∧
      ∀ id document', (id = hub → document' ≠ document) →
        after.desk id document' = hubs.desk id document' := by
  have desk : hubs.desk hub document = answering.cache.desk document := desk_of_hub hubFound
  rw [desk] at may
  have well := Hub.answersWell sound may now
  have changed : after.hubs.get? hub = some (answering.answer now call).2 := by
    rw [table, Table.get?_insert_self]
  have elsewhere : ∀ other, hub ≠ other → after.core other = hubs.core other := by
    intro other apart
    rw [core, core, table, Table.get?_insert, if_neg apart]
  refine ⟨?_, ?_, ?_⟩
  · rw [desk, desk_of_hub changed]
    exact well.answered
  · intro other service used cache found
    constructor
    · rintro rfl
      rw [core_of_hub changed] at found
      cases found
      exact ⟨well.engine, well.sound⟩
    · intro apart
      rwa [elsewhere other apart] at found
  · intro other document' apart
    by_cases same : hub = other
    · rw [← same, desk_of_hub changed, desk_of_hub hubFound]
      exact well.others document' (Ne.symm (apart same.symm))
    · unfold Hubs.desk
      rw [elsewhere other same]

namespace Kept

omit [Lease.Store S] [Lease.Lawful S] in
/-- A job changes that is inside no section, and is inside none then. -/
theorem handed (kept : Kept keeping engine first path hubs places) {changed : Job Ask Answer}
    (silent : hubs.ending? move = none) (site : ∀ {other job operation body},
      hubs.jobs.get? other = some job → job.opened = some (operation, body) →
      after.site.need? operation = hubs.site.need? operation)
    (medium : after.medium = hubs.medium) (core : ∀ id, after.core id = hubs.core id)
    (jobs : ∀ other, after.jobs.get? other =
      if id = other then some changed else hubs.jobs.get? other)
    (before : ∀ {job operation body}, hubs.jobs.get? id = some job →
      job.opened = some (operation, body) → hubs.site.need? operation ≠ some .body)
    (later : ∀ {operation body}, changed.opened = some (operation, body) →
      after.site.need? operation ≠ some .body) :
    Kept keeping engine first ((hubs, move) :: path) after places := by
  refine kept.still silent core (medium ▸ kept.holds) ?_
  intro other document task hub body
  refine serves_iff_of_changed jobs ?_ before later other
  intro other job operation body found isOpen
  rw [site found isOpen]

/-- A job gets on with the lock of its section. -/
theorem locked (kept : Kept keeping engine first path hubs places) (steady : engine.IsSteady)
    (orderly : hubs.Orderly archive engine) (orderlyAfter : after.Orderly archive engine)
    (exclusiveAfter : after.site.Exclusive) {job : Job Ask Answer} {operation : OperationId}
    {siteMove : Site.Move (Option Bytes) Section.Error}
    (found : hubs.jobs.get? id = some job) (isOpen : job.opened = some (operation, body))
    (kind : (∃ moment, siteMove = .resume operation moment) ∨
      ∃ failure now, siteMove = .perform operation failure now)
    (site : after.site = hubs.site.after siteMove) (silent : hubs.ending? move = none)
    (medium : after.medium = hubs.medium) (core : ∀ id, after.core id = hubs.core id)
    (jobs : after.jobs = hubs.jobs) :
    Kept keeping engine first ((hubs, move) :: path) after places := by
  obtain ⟨document, task, next, entry, rest, entryFound, plan, untouched, present⟩ :=
    orderly.opens found isOpen
  obtain ⟨elsewhere, here⟩ := Site.need?_locked kind entryFound
  rw [← site] at elsewhere here
  have holds : keeping.Holds places after.medium := medium ▸ kept.holds
  rcases here with same | ⟨waiting, runs⟩
  · refine kept.still silent core holds ?_
    intro other document task hub body
    refine serves_iff_of_same (by rw [jobs]) ?_
    intro rival operation' beside rivalFound shared
    by_cases equal : operation = operation'
    · rw [← equal]
      exact same
    · rw [elsewhere operation' equal]
  · have foundAfter : after.jobs.get? id = some job := by rw [jobs, found]
    have serves := serves_of_job foundAfter rest isOpen runs
    rw [untouched waiting, orderly.archive] at serves
    refine kept.entered steady orderlyAfter exclusiveAfter ⟨job, task, next, found, rest⟩ ?_
      serves (orderly.serves_iff_of_apart found isOpen jobs elsewhere) silent core holds
    rintro document task hub body ⟨next', operation', found', runs'⟩
    rw [found] at found'
    cases found'
    cases isOpen
    rw [Site.need?_of_found entryFound] at runs'
    exact Site.Entry.not_running_of_waiting waiting (Site.Entry.running_of_need? runs')

omit [Lease.Store S] [Lease.Lawful S] in
/-- The same while the body of a section runs. -/
theorem answered (kept : Kept keeping engine first path hubs places)
    {moment : Lock.Moment} {job : Job Ask Answer} {answering : Hub} {call : Section.Call}
    {next : call.Answer → Section Ask Answer (Option Bytes)} {desks : HubId → Desk}
    {origin : keeping.Place} (hubFound : hubs.hubs.get? job.hub = some answering)
    (working : Working keeping engine first path hubs places document task job.hub
      (.ask (.inl call) next) desks origin)
    (table : after.hubs = hubs.hubs.insert job.hub (answering.answer (moment.clock 0) call).2) :
    Section.Answered (hubs.desk job.hub document) call (answering.answer (moment.clock 0) call).1
        (after.desk job.hub document) ∧
      (∀ {id service used cache}, after.core id = some (service, used, cache) → cache.Sound) ∧
      ∀ id document', (id = job.hub → document' ≠ document) →
        after.desk id document' = hubs.desk id document' := by
  obtain ⟨answers, cores, elsewhere⟩ :=
    answered_of_sound hubFound (kept.sound (core_of_hub hubFound)) working.safe.1.1 table
  refine ⟨answers, ?_, elsewhere⟩
  intro id service used cache found
  obtain ⟨here, other⟩ := cores found
  by_cases same : id = job.hub
  · exact (here same).2
  · exact kept.sound (other (Ne.symm same))

/-- The hub answers a call of a section. -/
theorem asked (kept : Kept keeping engine first path hubs places)
    (orderly : hubs.Orderly archive engine) (exclusive : hubs.site.Exclusive)
    {moment : Lock.Moment} {job : Job Ask Answer} {answering : Hub} {operation : OperationId}
    {call : Section.Call} {next : call.Answer → Section Ask Answer (Option Bytes)}
    (found : hubs.jobs.get? id = some job) (hubFound : hubs.hubs.get? job.hub = some answering)
    (isOpen : job.opened = some (operation, .ask (.inl call) next))
    (runs : hubs.site.need? operation = some .body) (site : after.site = hubs.site)
    (medium : after.medium = hubs.medium)
    (table : after.hubs = hubs.hubs.insert job.hub (answering.answer (moment.clock 0) call).2)
    (jobs : ∀ other, after.jobs.get? other =
      if id = other then
        some (job.within operation (next (answering.answer (moment.clock 0) call).1))
      else hubs.jobs.get? other)
    (silent : hubs.ending? (.step id moment : Move B Fault) = none) :
    Kept keeping engine first ((hubs, .step id moment) :: path) after places := by
  obtain ⟨document, task, continue', entry, rest, -⟩ := orderly.opens found isOpen
  have serves := serves_of_job found rest isOpen runs
  obtain ⟨_, _, working⟩ := (kept.standing document).working serves
  obtain ⟨answered, sound, elsewhere⟩ := kept.answered hubFound working table
  have foundAfter := jobs id
  rw [if_pos rfl] at foundAfter
  have serves' := serves_of_job foundAfter rest rfl (by rw [site, runs])
  refine kept.advance orderly exclusive serves serves' ?_ silent sound elsewhere
    (medium ▸ kept.holds) (fun _ _ => rfl) ?_
  · intro other document task hub body apart
    exact serves_iff_of_same (by rw [jobs, if_neg apart]) fun _ _ => by rw [site]
  · intro origin post safe
    exact safe.2 _ (after.desk job.hub document, places document) ⟨answered, rfl⟩

/-- The archive answers a question of a section. -/
theorem consulted (kept : Kept keeping engine first path hubs places)
    (orderly : hubs.Orderly archive engine) (exclusive : hubs.site.Exclusive)
    {failure : Option Fault} {job : Job Ask Answer} {operation : OperationId} {question : Ask}
    {next : Answer question → Section Ask Answer (Option Bytes)}
    (permitted : hubs.Permits keeping (.consult id failure))
    (found : hubs.jobs.get? id = some job)
    (isOpen : job.opened = some (operation, .ask (.inr question) next))
    (site : after.site = hubs.site)
    (medium : after.medium = (Medium.attempt failure question hubs.medium).2)
    (core : ∀ id, after.core id = hubs.core id)
    (jobs : ∀ other, after.jobs.get? other =
      if id = other then
        some (job.within operation (next (Medium.attempt failure question hubs.medium).1))
      else hubs.jobs.get? other) :
    ∃ later, Kept keeping engine first ((hubs, .consult id failure) :: path) after later := by
  obtain ⟨need, happens⟩ := permitted
  have runs := body_of_need? need found isOpen
  have asks : question ∈ hubs.question? id := by
    obtain ⟨hub, rest, opened⟩ := job
    cases isOpen
    simp only [question?, found, Option.mem_def]
  obtain ⟨document, task, continue', entry, rest, -⟩ := orderly.opens found isOpen
  have serves := serves_of_job found rest isOpen runs
  obtain ⟨_, _, working⟩ := (kept.standing document).working serves
  obtain ⟨place, answers, holds⟩ :=
    keeping.answered kept.holds working.safe.1.2 (happens question asks)
  refine ⟨Function.update places document place, ?_⟩
  have foundAfter := jobs id
  rw [if_pos rfl] at foundAfter
  have serves' := serves_of_job foundAfter rest rfl (by rw [site, runs])
  refine kept.advance orderly exclusive serves serves' ?_ rfl ?_ ?_ (medium ▸ holds) ?_ ?_
  · intro other document task hub body apart
    exact serves_iff_of_same (by rw [jobs, if_neg apart]) fun _ _ => by rw [site]
  · intro other service used cache coreFound
    rw [core] at coreFound
    exact kept.sound coreFound
  · intro other document' _
    exact desk_of_core core other document'
  · intro document' apart
    exact Function.update_of_ne apart _ _
  · intro origin post safe
    refine safe.2 _ (after.desk job.hub document, _) ⟨desk_of_core core job.hub document, ?_⟩
    rw [Function.update_self]
    exact answers

/-- The body of a section has ended. -/
theorem bodyEnded (kept : Kept keeping engine first path hubs places)
    (orderly : hubs.Orderly archive engine) (exclusive : hubs.site.Exclusive)
    {moment : Lock.Moment} {job : Job Ask Answer} {operation : OperationId} {answering : Hub}
    {ending : Operation.Ending (Option Bytes) Section.Error}
    (found : hubs.jobs.get? id = some job) (hubFound : hubs.hubs.get? job.hub = some answering)
    (isOpen : job.opened = some (operation, .done ending))
    (runs : hubs.site.need? operation = some .body)
    (site : after.site = hubs.site.after (.bodyEnded operation ending))
    (medium : after.medium = hubs.medium) (core : ∀ id, after.core id = hubs.core id)
    (jobs : after.jobs = hubs.jobs) :
    Kept keeping engine first ((hubs, .step id moment) :: path) after places := by
  obtain ⟨document, task, next, entry, rest, -⟩ := orderly.opens found isOpen
  obtain ⟨elsewhere, here⟩ := Site.need?_bodyEnded hubs.site operation ending
  rw [← site] at elsewhere here
  refine kept.ended orderly exclusive (serves_of_job found rest isOpen runs)
    ⟨job, task, next, by rw [jobs, found], rest⟩ ?_
    (orderly.serves_iff_of_apart found isOpen jobs elsewhere)
    (ending?_of_done found hubFound rest isOpen runs moment) core (medium ▸ kept.holds)
  rintro document task hub body ⟨next', operation', found', runs'⟩
  rw [jobs, found] at found'
  cases found'
  cases isOpen
  exact here runs'

omit [Lease.Store S] [Lease.Lawful S] [Medium B Fault Ask Answer] in
/-- A job with no open section runs no body. -/
theorem outside_of_closed {job rival : Job Ask Answer} {operation : OperationId}
    (found : hubs.jobs.get? id = some job) (closed : job.opened = none)
    (again : hubs.jobs.get? id = some rival) (isOpen : rival.opened = some (operation, body)) :
    hubs.site.need? operation ≠ some .body := by
  rw [found] at again
  cases again
  rw [closed] at isOpen
  cases isOpen

/-- Every permitted move keeps all documents. -/
theorem step (kept : Kept keeping engine first path hubs places) (steady : engine.IsSteady)
    (orderly : hubs.Orderly archive engine) (orderlyAfter : after.Orderly archive engine)
    (exclusive : hubs.site.Exclusive) (exclusiveAfter : after.site.Exclusive)
    (effect : hubs.Effect move after) (permitted : hubs.Permits keeping move) :
    ∃ later, Kept keeping engine first ((hubs, move) :: path) after later := by
  have same : ∀ {other : Hubs S B Ask Answer}, other.site = hubs.site →
      ∀ {target : JobId} {job operation body}, hubs.jobs.get? target = some job →
        job.opened = some (operation, body) →
        other.site.need? operation = hubs.site.need? operation := by
    intro other site target job operation body _ _
    rw [site]
  cases effect with
  | quiet idle silent beside site medium core jobs =>
      refine ⟨places, kept.still silent core (medium ▸ kept.holds) ?_⟩
      intro id document task hub body
      exact serves_iff_of_same (by rw [jobs]) fun _ _ => by rw [site]
  | @begun _ _ hub work begins archive next site medium core jobs silent =>
      refine ⟨places, kept.handed silent (same site) medium core
        (fun other => jobs ▸ Table.get?_insert ..) ?_ ?_⟩
      · intro job operation body found
        exact absurd (orderly.numbered found) (Nat.lt_irrefl _)
      · rintro operation body ⟨⟩
  | replied found rest plain beside site medium core jobs silent =>
      refine ⟨places, kept.handed silent (same site) medium core jobs ?_ ?_⟩
      · intro job operation body found' isOpen
        obtain ⟨document, task, next, entry, rest', -⟩ := orderly.opens found' isOpen
        rw [found] at found'
        cases found'
        rw [rest] at rest'
        cases rest'
        exact absurd rfl (plain document task)
      · rintro operation body ⟨⟩
  | refused found rest closed beside site medium core jobs silent =>
      refine ⟨places, kept.handed silent (same site) medium core jobs
        (outside_of_closed found closed) ?_⟩
      rintro operation body ⟨⟩
  | opened found hubFound rest closed beside accepted site medium core jobs silent =>
      refine ⟨places, kept.handed silent ?_ medium core jobs
        (outside_of_closed found closed) ?_⟩
      · intro other job operation body rivalFound isOpen
        obtain ⟨_, _, _, entry, _, entryFound, -⟩ := orderly.opens rivalFound isOpen
        rw [site]
        exact Site.need?_enter (Nat.ne_of_gt (exclusive.numbered entryFound))
      · rintro operation body ⟨⟩
        obtain ⟨settings, maxWait, entered⟩ := Site.get?_enter accepted (.document _) none
        rw [← site] at entered
        rw [Site.need?_of_found entered]
        intro need
        cases need
  | locked idle silent found isOpen kind beside site medium core jobs =>
      refine ⟨places, kept.locked steady orderly orderlyAfter exclusiveAfter found isOpen ?_ site
        silent medium core jobs⟩
      rcases kind with ⟨moment, equal, -⟩ | ⟨failure, now, equal, -⟩
      · exact .inl ⟨moment, equal⟩
      · exact .inr ⟨failure, now, equal⟩
  | ended found hubFound rest isOpen runs beside site medium core jobs =>
      exact ⟨places,
        kept.bodyEnded orderly exclusive found hubFound isOpen runs site medium core jobs⟩
  | asked found hubFound isOpen runs beside site medium table jobs silent =>
      exact ⟨places,
        kept.asked orderly exclusive found hubFound isOpen runs site medium table jobs silent⟩
  | consulted found isOpen beside site medium core jobs =>
      exact kept.consulted orderly exclusive permitted found isOpen site medium core jobs
  | closed found rest isOpen finished beside site medium core jobs silent =>
      refine ⟨places, kept.handed silent (same site) medium core jobs ?_ ?_⟩
      · intro job operation body found' isOpen'
        rw [found] at found'
        cases found'
        rw [isOpen] at isOpen'
        cases isOpen'
        exact Site.need?_of_result? finished
      · rintro operation body ⟨⟩
  | drifted beside site medium core jobs =>
      refine ⟨places, kept.still rfl core ?_ ?_⟩
      · rw [medium]
        exact keeping.holds_of_drifts kept.holds permitted
      · intro id document task hub body
        exact serves_iff_of_same (by rw [jobs]) fun _ _ => by rw [site]

end Kept

/-! ## Runs -/

/-- Hubs at which nothing has begun, over documents at these places. -/
structure Starts (keeping : archive.Keeping B Fault) (engine : Engine)
    (first : DocumentId → keeping.Place) (hubs : Hubs S B Ask Answer) : Prop where
  operations : hubs.site.operations = .empty
  jobs : hubs.jobs = .empty
  next : hubs.nextJob = 0
  archive : hubs.archive = archive
  uses {id : HubId} {hub : Hub} (found : hubs.hubs.get? id = some hub) :
    hub.engine = engine ∧ hub.cache = .empty
  holds : keeping.Holds first hubs.medium

namespace Starts

omit [Lease.Store S] [Lease.Lawful S]

theorem core (starts : hubs.Starts keeping engine first) {service : ServiceId} {used : Engine}
    {cache : Cache} {id : HubId} (found : hubs.core id = some (service, used, cache)) :
    used = engine ∧ cache = .empty := by
  obtain ⟨hub, hubFound, equal⟩ := Option.map_eq_some_iff.mp found
  cases equal
  exact starts.uses hubFound

theorem orderly (starts : hubs.Starts keeping engine first) : hubs.Orderly archive engine := by
  have none : ∀ {id : JobId} {job : Job Ask Answer}, hubs.jobs.get? id ≠ some job := by
    intro id job found
    rw [starts.jobs] at found
    cases found
  refine ⟨starts.archive, fun found => (starts.core found).1, ?_, ?_, ?_⟩
  · intro id job found
    exact absurd found none
  · intro id job operation body found
    exact absurd found none
  · intro id other job rival operation body beside found
    exact absurd found none

/-- Nothing is loaded at first. -/
theorem desk (starts : hubs.Starts keeping engine first) (id : HubId) (document : DocumentId) :
    hubs.desk id document = none := by
  unfold Hubs.desk
  split
  · next service used cache found =>
      rw [(starts.core found).2]
      rfl
  · rfl

theorem kept (starts : hubs.Starts keeping engine first) :
    Kept keeping engine first [] hubs first := by
  refine ⟨?_, starts.holds, ?_⟩
  · intro id service used cache found
    rw [(starts.core found).2]
    exact Cache.sound_empty
  · intro document
    constructor
    · intro _
      constructor
      · intro id
        rw [starts.desk]
        rintro _ _ ⟨⟩
      · simp only [starts.desk]
        intro initial keeps _
        exact ⟨initial, .start, keeps⟩
    · rintro id task hub body ⟨next, operation, found, -⟩
      rw [starts.jobs] at found
      cases found

end Starts

variable {start : Hubs S B Ask Answer}

theorem Course.exclusive (course : Course keeping start path hubs)
    (starts : start.Starts keeping engine first) : hubs.site.Exclusive := by
  obtain ⟨sitePath, siteRun⟩ := course.site
  exact siteRun.exclusive starts.operations

theorem Course.orderly (course : Course keeping start path hubs)
    (starts : start.Starts keeping engine first) : hubs.Orderly archive engine := by
  induction course with
  | start => exact starts.orderly
  | move course permitted effect ih => exact ih.step (course.exclusive starts) effect permitted

/-- Every course keeps all documents. -/
theorem Course.kept (course : Course keeping start path hubs)
    (starts : start.Starts keeping engine first) (steady : engine.IsSteady) :
    ∃ places, Kept keeping engine first path hubs places := by
  induction course with
  | start => exact ⟨first, starts.kept⟩
  | move course permitted effect ih =>
      obtain ⟨places, kept⟩ := ih
      have later := course.move permitted effect
      exact kept.step steady (course.orderly starts) (later.orderly starts)
        (course.exclusive starts) (later.exclusive starts) effect permitted

omit [Lease.Store S] [Lease.Lawful S] in
/-- There is a history of each document at any time. -/
theorem Kept.history (kept : Kept keeping engine first path hubs places)
    {initial : Option Snapshot} (keeps : keeping.Keeps (first document) initial)
    (fitting : Fitting keeping.Fits engine keeping.Leaves initial (eventsOf document path)) :
    ∃ desks stored, History engine keeping.Leaves initial (eventsOf document path) desks stored := by
  by_cases busy : hubs.IsBusy document
  · obtain ⟨id, task, hub, body, serves⟩ := busy
    obtain ⟨desks, place, working⟩ := (kept.standing document).working serves
    obtain ⟨stored, history, -⟩ := working.told initial keeps fitting
    exact ⟨desks, stored, history⟩
  · obtain ⟨stored, history, -⟩ :=
      ((kept.standing document).resting busy).told initial keeps fitting
    exact ⟨_, stored, history⟩

/-- Whenever no body of a section of a document runs, what hubs have loaded of it and
what is stored are the outcome of its history. -/
theorem Course.history (course : Course keeping start path hubs)
    (starts : start.Starts keeping engine first) (steady : engine.IsSteady)
    (quiet : ¬ hubs.IsBusy document) {initial : Option Snapshot}
    (keeps : keeping.Keeps (first document) initial)
    (fitting : Fitting keeping.Fits engine keeping.Leaves initial (eventsOf document path)) :
    ∃ places stored, keeping.Holds places hubs.medium ∧
      keeping.Keeps (places document) stored ∧
      History engine keeping.Leaves initial (eventsOf document path)
        (fun id => hubs.desk id document) stored := by
  obtain ⟨places, kept⟩ := course.kept starts steady
  obtain ⟨stored, history, keepsAfter⟩ := ((kept.standing document).resting quiet).told initial
    keeps fitting
  exact ⟨places, stored, kept.holds, keepsAfter, history⟩

theorem Run.history (run : Run keeping start path hubs)
    (starts : start.Starts keeping engine first) (steady : engine.IsSteady)
    (quiet : ¬ hubs.IsBusy document) {initial : Option Snapshot}
    (keeps : keeping.Keeps (first document) initial)
    (fitting : Fitting keeping.Fits engine keeping.Leaves initial (eventsOf document path)) :
    ∃ places stored, keeping.Holds places hubs.medium ∧
      keeping.Keeps (places document) stored ∧
      History engine keeping.Leaves initial (eventsOf document path)
        (fun id => hubs.desk id document) stored :=
  run.course.history starts steady quiet keeps fitting

/-- A course has come by each of its moves. -/
theorem Course.split {late early : List (Hubs S B Ask Answer × Move B Fault)}
    {before : Hubs S B Ask Answer} (course : Course keeping start path hubs)
    (equal : path = late ++ (before, move) :: early) :
    Course keeping start early before ∧ ∃ after, before.Permits keeping move ∧
      before.Effect move after := by
  induction late generalizing path hubs with
  | nil =>
      cases course with
      | start => cases equal
      | move course permitted effect =>
          cases equal
          exact ⟨course, _, permitted, effect⟩
  | cons last late ih =>
      cases course with
      | start => cases equal
      | move course permitted effect =>
          cases equal
          exact ih course rfl

/-- When a body ends, the medium is left alone, and no other body runs for the document. -/
theorem quiet_of_ending {event : Event} (orderly : hubs.Orderly archive engine)
    (exclusive : hubs.site.Exclusive) (effect : hubs.Effect move after)
    (ends : hubs.ending? move = some event) :
    after.medium = hubs.medium ∧ ¬ after.IsBusy event.document := by
  have loud : hubs.ending? move ≠ none := by
    rw [ends]
    simp
  cases effect with
  | @ended _ target moment _ _ _ _ _ _ found hubFound rest isOpen runs beside site medium core
      jobs =>
      refine ⟨medium, ?_⟩
      obtain ⟨document, task, next, entry, asks, -⟩ := orderly.opens found isOpen
      have same : hubs.ending? (.step target moment : Move B Fault) = some ⟨target, _, _, _, _⟩ :=
        ending?_of_done found hubFound asks isOpen runs moment
      rw [same] at ends
      cases ends
      obtain ⟨elsewhere, here⟩ := Site.need?_bodyEnded hubs.site _ _
      rw [← site] at elsewhere here
      rintro ⟨other, task', hub', body', rival⟩
      by_cases equal : target = other
      · obtain ⟨next', operation', found', runs'⟩ := rival
        rw [jobs, ← equal, found] at found'
        rw [Option.some.inj found'] at isOpen
        cases isOpen
        exact here runs'
      · have rival := (orderly.serves_iff_of_apart found isOpen jobs elsewhere equal).mp rival
        exact equal ((serves_of_job found asks isOpen runs).sole orderly exclusive rival)
  | quiet _ silent => exact absurd silent loud
  | begun _ _ _ _ _ _ _ silent => exact absurd silent loud
  | replied _ _ _ _ _ _ _ _ silent => exact absurd silent loud
  | refused _ _ _ _ _ _ _ _ silent => exact absurd silent loud
  | opened _ _ _ _ _ _ _ _ _ _ silent => exact absurd silent loud
  | locked _ silent => exact absurd silent loud
  | asked _ _ _ _ _ _ _ _ _ silent => exact absurd silent loud
  | consulted => exact absurd rfl loud
  | closed _ _ _ _ _ _ _ _ _ silent => exact absurd silent loud
  | drifted => exact absurd rfl loud

end Hubs

end Coedit
