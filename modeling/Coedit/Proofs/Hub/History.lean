import Coedit.Proofs.Hub.Opened

/-!
# Sections one after the other

What hubs do to a document is as if the sections of the document were done as a whole,
one after the other in the order in which their bodies end.  Whenever no body of a
section of a document runs, what the hubs have loaded of it and what is stored are the
outcome of such a history.
-/

namespace Coedit.Hubs

variable {S B Fault Ask : Type} {Answer : Ask → Type}

/-- What the sections of a document do one after the other, latest first, to what each
hub has loaded and to what is stored. -/
inductive History (engine : Engine)
    (leaves : Option Snapshot → Snapshot → Option Snapshot → Prop)
    (initial : Option Snapshot) : List Event → (HubId → Desk) → Option Snapshot → Prop where
  | start : History engine leaves initial [] (fun _ => none) initial
  | next {events : List Event} {desks : HubId → Desk} {stored after : Option Snapshot}
      {event : Event} {desk : Desk} (history : History engine leaves initial events desks stored)
      (does : Section.Does engine leaves (desks event.hub) stored event.task event.ending desk
        after) :
      History engine leaves initial (event :: events) (Function.update desks event.hub desk) after

/-- Whether every version that is ever stored can be kept. -/
def Fitting (fits : Nat → Prop) (engine : Engine)
    (leaves : Option Snapshot → Snapshot → Option Snapshot → Prop) (initial : Option Snapshot)
    (events : List Event) : Prop :=
  ∀ earlier, earlier <:+ events → ∀ desks stored,
    History engine leaves initial earlier desks stored →
    ∀ snapshot ∈ stored, fits snapshot.version

/-- Whether a job is inside the body of a section, and what is left of the body. -/
def Serves (hubs : Hubs S B Ask Answer) (id : JobId) (document : DocumentId) (task : Hub.Task)
    (hub : HubId) (body : Section Ask Answer (Option Bytes)) : Prop :=
  ∃ next operation,
    hubs.jobs.get? id = some ⟨hub, .ask (.section document task) next, some (operation, body)⟩ ∧
    hubs.site.need? operation = some .body

/-- Whether the body of a section of a document runs. -/
def IsBusy (hubs : Hubs S B Ask Answer) (document : DocumentId) : Prop :=
  ∃ id task hub body, hubs.Serves id document task hub body

/-- No body runs if no job is inside a section. -/
theorem not_isBusy_of_unopened {hubs : Hubs S B Ask Answer} {document : DocumentId}
    (unopened : hubs.jobs.values.all fun job => job.opened.isNone) : ¬ hubs.IsBusy document := by
  rintro ⟨id, task, hub, body, next, operation, found, -⟩
  have entry := Table.get?_eq_some_iff.mp found
  have closed := List.all_eq_true.mp unopened _ (List.mem_map_of_mem entry)
  cases closed

/-- What a hub has loaded of a document. -/
def desk (hubs : Hubs S B Ask Answer) (id : HubId) (document : DocumentId) : Desk :=
  match hubs.core id with
  | some (_, _, cache) => cache.desk document
  | none => none

section

variable [Medium B Fault Ask Answer] {archive : Archive Ask Answer}

/-- What is loaded and what is stored of a document are the outcome of a history, if
something could be said of the place of the document at first. -/
def Told (keeping : archive.Keeping B Fault) (engine : Engine)
    (first : DocumentId → keeping.Place) (document : DocumentId)
    (path : List (Hubs S B Ask Answer × Move B Fault)) (desks : HubId → Desk)
    (place : keeping.Place) : Prop :=
  ∀ initial, keeping.Keeps (first document) initial →
    Fitting keeping.Fits engine keeping.Leaves initial (eventsOf document path) →
    ∃ stored, History engine keeping.Leaves initial (eventsOf document path) desks stored ∧
      keeping.Keeps place stored

variable (keeping : archive.Keeping B Fault) (engine : Engine)
  (first : DocumentId → keeping.Place) (path : List (Hubs S B Ask Answer × Move B Fault))
  (hubs : Hubs S B Ask Answer) (places : DocumentId → keeping.Place)

/-- A document while no body of its sections runs. -/
structure Resting (document : DocumentId) : Prop where
  clean (id : HubId) : (hubs.desk id document).IsClean
  told : Told keeping engine first document path (fun id => hubs.desk id document)
    (places document)

/-- A document while the body of a section runs: `desks` and `place` are what was there
when it began. -/
structure Working (document : DocumentId) (task : Hub.Task) (hub : HubId)
    (body : Section Ask Answer (Option Bytes)) (desks : HubId → Desk) (place : keeping.Place) :
    Prop where
  clean (id : HubId) : (desks id).IsClean
  others (id : HubId) (apart : id ≠ hub) : hubs.desk id document = desks id
  told : Told keeping engine first document path desks place
  safe : body.Safe (Section.rules keeping document place task.Consults)
    (Section.AfterBody engine task (desks hub) place) (hubs.desk hub document, places document)

/-- A document at any time. -/
structure Standing (document : DocumentId) : Prop where
  resting (quiet : ¬ hubs.IsBusy document) :
    Resting keeping engine first path hubs places document
  working {id : JobId} {task : Hub.Task} {hub : HubId}
    {body : Section Ask Answer (Option Bytes)}
    (serves : hubs.Serves id document task hub body) :
    ∃ desks place, Working keeping engine first path hubs places document task hub body desks place

/-- All documents, those of each hub apart from one another. -/
structure Kept : Prop where
  sound {id : HubId} {service : ServiceId} {used : Engine} {cache : Cache}
    (found : hubs.core id = some (service, used, cache)) : cache.Sound
  holds : keeping.Holds places hubs.medium
  standing (document : DocumentId) : Standing keeping engine first path hubs places document

end

/-! ## Events on a path -/

section

variable {hubs : Hubs S B Ask Answer} {move : Move B Fault} {document : DocumentId}
  {path : List (Hubs S B Ask Answer × Move B Fault)}

theorem events_cons : events ((hubs, move) :: path) =
    match hubs.ending? move with
    | some event => event :: events path
    | none => events path := by
  cases ends : hubs.ending? move <;> simp [events, ends]

theorem eventsOf_silent (silent : hubs.ending? move = none) :
    eventsOf document ((hubs, move) :: path) = eventsOf document path := by
  simp only [eventsOf, events_cons, silent]

theorem eventsOf_other {event : Event} (ends : hubs.ending? move = some event)
    (apart : event.document ≠ document) :
    eventsOf document ((hubs, move) :: path) = eventsOf document path := by
  simp only [eventsOf, events_cons, ends]
  rw [List.filter_cons_of_neg (by simpa using apart)]

theorem eventsOf_same {event : Event} (ends : hubs.ending? move = some event)
    (same : event.document = document) :
    eventsOf document ((hubs, move) :: path) = event :: eventsOf document path := by
  simp only [eventsOf, events_cons, ends]
  rw [List.filter_cons_of_pos (by simpa using same)]

theorem eventsOf_suffix {earlier : List (Hubs S B Ask Answer × Move B Fault)}
    (suffix : earlier <:+ path) : eventsOf document earlier <:+ eventsOf document path := by
  obtain ⟨later, rfl⟩ := suffix
  simp only [eventsOf, events, List.filterMap_append, List.filter_append]
  exact List.suffix_append ..

end

theorem Fitting.of_suffix {fits : Nat → Prop} {engine : Engine}
    {leaves : Option Snapshot → Snapshot → Option Snapshot → Prop} {initial : Option Snapshot}
    {earlier events : List Event} (fitting : Fitting fits engine leaves initial events)
    (suffix : earlier <:+ events) : Fitting fits engine leaves initial earlier :=
  fun before within => fitting before (within.trans suffix)

/-! ## Who is inside a section -/

section

variable {archive : Archive Ask Answer} {engine : Engine} {hubs after : Hubs S B Ask Answer}
  {id : JobId} {document document' : DocumentId} {task task' : Hub.Task} {hub hub' : HubId}
  {body body' : Section Ask Answer (Option Bytes)}

/-- A job is inside one section at most. -/
theorem Serves.functional (serves : hubs.Serves id document task hub body)
    (again : hubs.Serves id document' task' hub' body') :
    document = document' ∧ task = task' ∧ hub = hub' ∧ body = body' := by
  obtain ⟨next, operation, found, runs⟩ := serves
  obtain ⟨next', operation', found', runs'⟩ := again
  rw [found] at found'
  cases found'
  exact ⟨rfl, rfl, rfl, rfl⟩

/-- At most one job is inside a section of a document. -/
theorem Serves.sole [Lease.Store S] [Lease.Lawful S] (orderly : hubs.Orderly archive engine)
    (exclusive : hubs.site.Exclusive) {other : JobId}
    (serves : hubs.Serves id document task hub body)
    (rival : hubs.Serves other document task' hub' body') : id = other := by
  obtain ⟨next, operation, found, runs⟩ := serves
  obtain ⟨next', operation', found', runs'⟩ := rival
  have holds : ∀ {id operation hub task next body},
      hubs.jobs.get? id = some ⟨hub, .ask (.section document task) next, some (operation, body)⟩ →
      hubs.site.need? operation = some .body →
      hubs.site.Holds operation (Lock.documentKey document) := by
    intro id operation hub task next body found runs
    obtain ⟨document', task', next', entry, rest, entryFound, plan, -⟩ :=
      orderly.opens found rfl
    cases rest
    rw [Site.need?, Site.operation?, entryFound] at runs
    refine Site.Exclusive.holds_of_runs ⟨entry, entryFound, ?_, Site.Entry.running_of_need? runs⟩
    rw [Site.Entry.key, plan]
    rfl
  have same : operation = operation' :=
    exclusive.holder_unique (holds found runs) (holds found' runs')
  cases same
  exact orderly.apart found rfl found' rfl

/-- A job stays where it is if neither it nor its section's operation changes. -/
theorem serves_iff_of_same (job : after.jobs.get? id = hubs.jobs.get? id)
    (needs : ∀ {job operation body}, hubs.jobs.get? id = some job →
      job.opened = some (operation, body) →
      (after.site.need? operation = some .body ↔ hubs.site.need? operation = some .body)) :
    after.Serves id document task hub body ↔ hubs.Serves id document task hub body := by
  constructor
  · rintro ⟨next, operation, found, runs⟩
    rw [job] at found
    exact ⟨next, operation, found, (needs found rfl).mp runs⟩
  · rintro ⟨next, operation, found, runs⟩
    exact ⟨next, operation, job.trans found, (needs found rfl).mpr runs⟩

/-- A job that is inside no section changes without entering one. -/
theorem serves_iff_of_changed {changed : Job Ask Answer}
    (jobs : ∀ other, after.jobs.get? other =
      if id = other then some changed else hubs.jobs.get? other)
    (needs : ∀ {other job operation body}, hubs.jobs.get? other = some job →
      job.opened = some (operation, body) →
      (after.site.need? operation = some .body ↔ hubs.site.need? operation = some .body))
    (before : ∀ {job operation body}, hubs.jobs.get? id = some job →
      job.opened = some (operation, body) → hubs.site.need? operation ≠ some .body)
    (later : ∀ {operation body}, changed.opened = some (operation, body) →
      after.site.need? operation ≠ some .body) (other : JobId) :
    after.Serves other document task hub body ↔ hubs.Serves other document task hub body := by
  by_cases same : id = other
  · cases same
    constructor
    · rintro ⟨next, operation, found, runs⟩
      rw [jobs, if_pos rfl] at found
      cases found
      exact absurd runs (later rfl)
    · rintro ⟨next, operation, found, runs⟩
      exact absurd runs (before found rfl)
  · exact serves_iff_of_same (by rw [jobs, if_neg same]) needs

/-- Whether a job has asked for a section of a document. -/
def AsksFor (hubs : Hubs S B Ask Answer) (id : JobId) (document : DocumentId) : Prop :=
  ∃ job task next, hubs.jobs.get? id = some job ∧ job.rest = .ask (.section document task) next

theorem Serves.asksFor (serves : hubs.Serves id document task hub body) :
    hubs.AsksFor id document := by
  obtain ⟨next, operation, found, -⟩ := serves
  exact ⟨_, task, next, found, rfl⟩

theorem AsksFor.functional (asks : hubs.AsksFor id document) (again : hubs.AsksFor id document') :
    document = document' := by
  obtain ⟨job, task, next, found, rest⟩ := asks
  obtain ⟨job', task', next', found', rest'⟩ := again
  rw [found] at found'
  cases found'
  rw [rest] at rest'
  cases rest'
  rfl

/-- What one job does for a document is no matter to the sections of another. -/
theorem serves_iff_elsewhere (asks : hubs.AsksFor id document)
    (asksStill : after.AsksFor id document)
    (others : ∀ {other document task hub body}, id ≠ other →
      (after.Serves other document task hub body ↔ hubs.Serves other document task hub body))
    (apart : document' ≠ document) {other : JobId} :
    after.Serves other document' task hub body ↔ hubs.Serves other document' task hub body := by
  by_cases same : id = other
  · cases same
    constructor
    · intro serves
      exact absurd (serves.asksFor.functional asksStill) apart
    · intro serves
      exact absurd (serves.asksFor.functional asks) apart
  · exact others same

end

/-! ## Moves that do not matter -/

section

variable [Medium B Fault Ask Answer] {archive : Archive Ask Answer}
  {keeping : archive.Keeping B Fault} {engine : Engine} {first : DocumentId → keeping.Place}
  {path path' : List (Hubs S B Ask Answer × Move B Fault)} {hubs after : Hubs S B Ask Answer}
  {places later : DocumentId → keeping.Place} {move : Move B Fault} {document : DocumentId}

theorem Told.transfer {desks : HubId → Desk} {place : keeping.Place}
    (told : Told keeping engine first document path desks place)
    (events : eventsOf document path' = eventsOf document path) :
    Told keeping engine first document path' desks place := by
  unfold Told
  rw [events]
  exact told

/-- A document stays as it stands if neither its sections nor its place nor what is
loaded of it changes. -/
theorem Standing.transfer (standing : Standing keeping engine first path hubs places document)
    (events : eventsOf document path' = eventsOf document path)
    (serves : ∀ {id task hub body}, after.Serves id document task hub body ↔
      hubs.Serves id document task hub body)
    (desks : ∀ id, after.desk id document = hubs.desk id document)
    (place : later document = places document) :
    Standing keeping engine first path' after later document := by
  constructor
  · intro quiet
    have resting := standing.resting fun busy => quiet <| by
      obtain ⟨id, task, hub, body, serving⟩ := busy
      exact ⟨id, task, hub, body, serves.mpr serving⟩
    constructor
    · intro id
      rw [desks]
      exact resting.clean id
    · simp only [desks, place]
      exact resting.told.transfer events
  · intro id task hub body serving
    obtain ⟨desks', place', working⟩ := standing.working (serves.mp serving)
    refine ⟨desks', place', working.clean, ?_, working.told.transfer events, ?_⟩
    · intro other apart
      rw [desks]
      exact working.others other apart
    · rw [desks, place]
      exact working.safe

theorem desk_of_core (core : ∀ id, after.core id = hubs.core id) (id : HubId)
    (document : DocumentId) : after.desk id document = hubs.desk id document := by
  unfold desk
  rw [core]

/-- A move that begins or ends no body and does nothing for one. -/
theorem Kept.still (kept : Kept keeping engine first path hubs places)
    (silent : hubs.ending? move = none) (core : ∀ id, after.core id = hubs.core id)
    (holds : keeping.Holds places after.medium)
    (serves : ∀ {id document task hub body}, after.Serves id document task hub body ↔
      hubs.Serves id document task hub body) :
    Kept keeping engine first ((hubs, move) :: path) after places := by
  refine ⟨?_, holds, ?_⟩
  · intro id service used cache found
    rw [core] at found
    exact kept.sound found
  · intro document
    exact (kept.standing document).transfer (eventsOf_silent silent) serves
      (fun id => desk_of_core core id document) rfl

end

end Coedit.Hubs
