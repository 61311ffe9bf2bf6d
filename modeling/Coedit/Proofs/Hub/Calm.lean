import Coedit.Proofs.Hub.Errand

/-!
# Sections that have come to nothing

How far the section of an errand has come.  Until its body has come to a value, nothing has
changed that matters to anybody else: no move has done any harm, and what was stored when
the body began is stored again when it ends.
-/

namespace Coedit

namespace Section

variable {Ask Fault B : Type} {Answer : Ask → Type} [Medium B Fault Ask Answer]
  {archive : Archive Ask Answer} {keeping : archive.Keeping B Fault} {document : DocumentId}

/-- A call that puts nothing into memory but what is stored. -/
theorem Answered.loaded {desk after : Desk} {call : Call} {answer : call.Answer}
    (answered : Answered desk call answer after)
    (loading : Loading (.inl call : Call ⊕ Ask)) {origin : keeping.Place}
    {places : DocumentId → keeping.Place} {medium : B} (holds : keeping.Holds places medium)
    (backs : Backs keeping origin (desk, places document) call) {stored : Option Snapshot}
    (keeps : keeping.Keeps origin stored) :
    after = desk ∨ ∃ cell now,
      after = some (cell, .ofSnapshot ((keeping.stored medium document).getD unstored) now) := by
  cases call with
  | find _ => exact .inl answered.2
  | look _ => exact .inl answered.2
  | sessions _ => exact .inl answered
  | place _ snapshot =>
      cases desk with
      | some held => exact .inl answered.2
      | none =>
          obtain ⟨now, loaded⟩ := answered
          obtain ⟨kept, rfl⟩ := backs stored keeps
          rw [keeping.stored_of_keeps holds kept]
          exact .inr ⟨_, now, loaded⟩
  | refresh cell snapshot =>
      obtain ⟨-, now, loaded⟩ := answered
      rw [keeping.stored_of_keeps holds (backs stored keeps)]
      exact .inr ⟨cell, now, loaded⟩
  | commit _ _ => cases loading
  | clean _ => cases loading
  | poison _ => cases loading
  | forget _ => cases loading

/-- Unless it commits, a careful call puts nothing into memory but what is stored. -/
theorem Careful.loading_or_done {desk after : Desk} {call : Call} {answer : call.Answer}
    {next : call.Answer → Section Ask Answer (Option Bytes)}
    (careful : Careful (.inl call : Call ⊕ Ask) next)
    (answered : Answered desk call answer after) :
    Loading (.inl call : Call ⊕ Ask) ∨ ∃ value, next answer = .done (.value value) := by
  cases call with
  | commit cell content =>
      obtain ⟨value, done⟩ := careful
      obtain ⟨rfl, -⟩ := answered
      exact .inr ⟨value, done⟩
  | _ => exact .inl careful

/-- A section that does not come to a value leaves what was stored, if failed saves do. -/
theorem Does.stored_of_error {engine : Engine}
    {leaves : Option Snapshot → Snapshot → Option Snapshot → Prop} {desk after : Desk}
    {stored later : Option Snapshot} {task : Hub.Task}
    {ending : Operation.Ending (Option Bytes) Error}
    (does : Does engine leaves desk stored task ending after later)
    (whole : ∀ before saved after, leaves before saved after → after = before) :
    (∃ value, ending = .value value) ∨ ∃ error, ending = .error error ∧ later = stored := by
  cases does with
  | unread error => exact .inr ⟨_, rfl, rfl⟩
  | untold loads verdict => exact .inr ⟨_, rfl, rfl⟩
  | refused loads verdict => exact .inr ⟨_, rfl, rfl⟩
  | unsaved loads verdict changes left error => exact .inr ⟨_, rfl, whole _ _ _ left⟩
  | _ => exact .inl ⟨_, rfl⟩

end Section

namespace Site.Entry

variable {α ε : Type} {entry changed : Entry α ε}

/-- Whether an operation has at most gone on with its lock. -/
def GetsOn (entry changed : Entry α ε) : Prop :=
  (∃ moment, changed = entry.resumed moment) ∨ changed.operation = entry.operation

namespace GetsOn

theorem tells {told : Option (Operation.Ending α ε)} (getsOn : entry.GetsOn changed)
    (tells : entry.operation.phase.Tells told) : changed.operation.phase.Tells told := by
  rcases getsOn with ⟨moment, rfl⟩ | same
  · exact tells_resumed tells moment
  · exact same ▸ tells

theorem running (getsOn : entry.GetsOn changed) (running : entry.IsRunning) :
    changed.IsRunning := by
  rcases getsOn with ⟨moment, rfl⟩ | same
  · rwa [resumed_of_running running]
  · rwa [IsRunning, same]

theorem waiting (getsOn : entry.GetsOn changed) (waiting : changed.IsWaiting) :
    entry.IsWaiting := by
  rcases getsOn with ⟨moment, rfl⟩ | same
  · exact waiting_of_resumed waiting
  · rwa [IsWaiting, same] at waiting

/-- A body begins when its operation has waited for the lock. -/
theorem running_or_waiting (getsOn : entry.GetsOn changed) (running : changed.IsRunning) :
    entry.IsRunning ∨ entry.IsWaiting := by
  rcases getsOn with ⟨moment, rfl⟩ | same
  · exact running_or_waiting_of_resumed running
  · rw [IsRunning, same] at running
    exact .inl running

end GetsOn

end Site.Entry

namespace Site

variable {S α ε : Type} {site after : Site S α ε} {service : ServiceId} {plan : Plan}
  {maxWait : Option Duration}

/-- A closed service turns away what would enter. -/
theorem enter_eq_error {failure : Operation.Failure ε}
    (turned : site.enter service plan maxWait = .error failure) : failure = .rejected plan.key := by
  unfold enter at turned
  split at turned
  · cases turned
  · cases turned
    rfl

theorem enter_eq_ok {operation : OperationId}
    (entered : site.enter service plan maxWait = .ok (operation, after)) :
    ∃ settings wait, after.lockers = site.lockers ∧
      after.operations.get? operation = some ⟨service, .create plan settings wait, none⟩ := by
  unfold enter at entered
  split at entered
  · cases entered
    exact ⟨_, _, rfl, Table.get?_insert_self ..⟩
  · cases entered

end Site

namespace Hubs

variable {S B Fault Ask : Type} {Answer : Ask → Type} [Lease.Store S]
  [Medium B Fault Ask Answer] {archive : Archive Ask Answer}

/-- Hubs that differ in their locks and jobs only. -/
structure Same (hubs after : Hubs S B Ask Answer) : Prop where
  rosters (hub : HubId) : after.roster? hub = hubs.roster? hub
  core (hub : HubId) : after.core hub = hubs.core hub
  medium : after.medium = hubs.medium
  archive : after.archive = hubs.archive

/-- Whether the body of a job's section began on a path while this was stored of the
document. -/
def Entered (keeping : archive.Keeping B Fault) (id : JobId) (document : DocumentId)
    (path : List (Hubs S B Ask Answer × Move B Fault)) (stored : Option Snapshot) : Prop :=
  ∃ before move, (before, move) ∈ path ∧ ¬ before.Runs id ∧ (before.after move).Runs id ∧
    keeping.stored (before.after move).medium document = stored

/-- A path with which nothing has changed that matters to anybody else: no move did any
harm, and when the body of the section stopped, what had been stored when it began was
stored again. -/
structure Calm (keeping : archive.Keeping B Fault) (id : JobId) (home : HubId)
    (document : DocumentId) (path : List (Hubs S B Ask Answer × Move B Fault)) : Prop where
  harmless {before : Hubs S B Ask Answer} {move : Move B Fault} (member : (before, move) ∈ path) :
    Harmless keeping id home document before (before.after move)
  restored {late early : List (Hubs S B Ask Answer × Move B Fault)}
    {before : Hubs S B Ask Answer} {move : Move B Fault}
    (split : path = late ++ (before, move) :: early) (runs : before.Runs id)
    (stops : ¬ (before.after move).Runs id) :
    Entered keeping id document early (keeping.stored (before.after move).medium document)

/-- The service turns a job's section down, or its operation ends with a failure. -/
def Denies (hubs : Hubs S B Ask Answer) (id : JobId) (home : HubId) (document : DocumentId)
    (failure : Operation.Failure Section.Error) : Prop :=
  (∃ hub, hubs.hubs.get? home = some hub ∧
      hubs.site.enter hub.service (.document document) none = .error failure) ∨
    ∃ operation, hubs.operation? id = some operation ∧
      hubs.site.result? operation = some (.error failure)

section

variable {keeping : archive.Keeping B Fault} {hubs after : Hubs S B Ask Answer}
  {move : Move B Fault} {id : JobId} {home : HubId} {document : DocumentId}
  {path : List (Hubs S B Ask Answer × Move B Fault)} {stored : Option Snapshot}

omit [Lease.Store S] [Medium B Fault Ask Answer] in
@[refl] theorem Same.refl (hubs : Hubs S B Ask Answer) : hubs.Same hubs :=
  ⟨fun _ => rfl, fun _ => rfl, rfl, rfl⟩

omit [Lease.Store S] [Medium B Fault Ask Answer] in
theorem Same.withSite (same : hubs.Same after) (site : Site S (Option Bytes) Section.Error) :
    hubs.Same { after with site := site } :=
  ⟨same.rosters, same.core, same.medium, same.archive⟩

omit [Lease.Store S] [Medium B Fault Ask Answer] in
theorem Same.setJob (same : hubs.Same after) (id : JobId) (job : Job Ask Answer) :
    hubs.Same (after.setJob id job) :=
  ⟨same.rosters, same.core, same.medium, same.archive⟩

theorem Entered.cons (entered : Entered keeping id document path stored)
    (step : Hubs S B Ask Answer × Move B Fault) :
    Entered keeping id document (step :: path) stored := by
  obtain ⟨before, move, member, rest⟩ := entered
  exact ⟨before, move, List.mem_cons_of_mem _ member, rest⟩

theorem calm_nil :
    Calm keeping id home document ([] : List (Hubs S B Ask Answer × Move B Fault)) :=
  ⟨nofun, fun split => absurd split (by simp)⟩

theorem Calm.cons (calm : Calm keeping id home document path)
    (harmless : Harmless keeping id home document hubs (hubs.after move))
    (restored : hubs.Runs id → ¬ (hubs.after move).Runs id →
      Entered keeping id document path (keeping.stored (hubs.after move).medium document)) :
    Calm keeping id home document ((hubs, move) :: path) := by
  constructor
  · intro before move' member
    rcases List.mem_cons.mp member with equal | member
    · cases equal
      exact harmless
    · exact calm.harmless member
  · intro late early before move' split runs stops
    cases late with
    | nil =>
        cases split
        exact restored runs stops
    | cons last late =>
        cases split
        exact calm.restored rfl runs stops

omit [Lease.Store S] in
theorem Same.harmless (same : hubs.Same after) : Harmless keeping id home document hubs after :=
  ⟨same.rosters, fun hub other _ => desk_of_core same.core hub other,
    .inl (desk_of_core same.core home document), .inl same.medium⟩

theorem Calm.cons_of_same (calm : Calm keeping id home document path)
    (same : hubs.Same (hubs.after move)) (still : hubs.Runs id → (hubs.after move).Runs id) :
    Calm keeping id home document ((hubs, move) :: path) :=
  calm.cons same.harmless fun runs stops => absurd (still runs) stops

end

/-! ## Inside the section -/

section

variable (keeping : archive.Keeping B Fault) (engine : Engine) (id : JobId) (home : HubId)
  (document : DocumentId)

/-- How far the section of an errand has come. -/
inductive Within (task : Hub.Task) (path : List (Hubs S B Ask Answer × Move B Fault))
    (hubs : Hubs S B Ask Answer) (body : Section Ask Answer (Option Bytes))
    (entry : Site.Entry (Option Bytes) Section.Error) : Prop where
  /-- The lock is not had yet, or cannot be had. -/
  | outside (idle : ¬ entry.IsRunning) (tells : entry.operation.phase.Tells none)
      (untouched : entry.IsWaiting → body = Hubs.body archive engine document task)
      (calm : Calm keeping id home document path)
      (readable : Readable keeping document hubs.medium)
  | running {desk : Desk} {place : keeping.Place} {stored : Option Snapshot}
      {places : DocumentId → keeping.Place} (running : entry.IsRunning)
      (calm : Calm keeping id home document path) (careful : body.Every Section.Careful)
      (holds : keeping.Holds places hubs.medium) (keeps : keeping.Keeps place stored)
      (safe : body.Safe (Section.rules keeping document place task.Consults)
        (Section.AfterBody engine task desk place) (hubs.desk home document, places document))
      (entered : Entered keeping id document path stored)
  | failed {error : Section.Error} (tells : entry.operation.phase.Tells (some (.error error)))
      (calm : Calm keeping id home document path)
      (member : ⟨id, home, document, task, .error error⟩ ∈ events path)
  /-- The body has come to a value. -/
  | bound (value : Option Bytes)
      (outcome : entry.IsRunning ∧ body = .done (.value value) ∨
        entry.operation.phase.Tells (some (.value value)))

end

namespace Within

variable {keeping : archive.Keeping B Fault} {engine : Engine} {id : JobId} {home : HubId}
  {document : DocumentId} {task : Hub.Task} {path : List (Hubs S B Ask Answer × Move B Fault)}
  {hubs after : Hubs S B Ask Answer} {move : Move B Fault}
  {body : Section Ask Answer (Option Bytes)}
  {entry changed : Site.Entry (Option Bytes) Section.Error}

/-- The body begins. -/
theorem begins (steady : engine.IsSteady) (consults : task.Consults)
    (running : changed.IsRunning) (calm : Calm keeping id home document path)
    (readable : Readable keeping document after.medium)
    (entered : Entered keeping id document path (keeping.stored after.medium document)) :
    Within keeping engine id home document task path after
      (Hubs.body archive engine document task) changed := by
  obtain ⟨places, stored, holds, keeps⟩ := readable
  rw [keeping.stored_of_keeps holds keeps] at entered
  have safe : (Hubs.body archive engine document task).Safe
      (Section.rules keeping document (places document) task.Consults)
      (Section.AfterBody engine task (after.desk home document) (places document))
      (after.desk home document, places document) :=
    Section.body_safe steady task (.inl consults)
  exact .running running calm (Section.careful_body steady archive document consults) holds keeps
    safe entered

/-- The operation gets on with its lock. -/
theorem locked (within : Within keeping engine id home document task path hubs body entry)
    (steady : engine.IsSteady) (consults : task.Consults) (getsOn : entry.GetsOn changed)
    (runs : hubs.Runs id ↔ entry.IsRunning)
    (runsAfter : (hubs.after move).Runs id ↔ changed.IsRunning)
    (same : hubs.Same (hubs.after move)) (silent : hubs.ending? move = none) :
    Within keeping engine id home document task ((hubs, move) :: path) (hubs.after move) body
      changed := by
  have still : hubs.Runs id → (hubs.after move).Runs id :=
    fun runs' => runsAfter.mpr (getsOn.running (runs.mp runs'))
  cases within with
  | outside idle told untouched calm readable =>
      have onward := calm.cons_of_same same still
      by_cases running : changed.IsRunning
      · have waiting := (getsOn.running_or_waiting running).resolve_left idle
        rw [untouched waiting]
        refine begins steady consults running onward (same.medium ▸ readable) ?_
        exact ⟨hubs, move, List.mem_cons_self, mt runs.mp idle, runsAfter.mpr running, rfl⟩
      · exact .outside running (getsOn.tells told)
          (fun waiting => untouched (getsOn.waiting waiting)) onward (same.medium ▸ readable)
  | running running calm careful holds keeps safe entered =>
      rw [← desk_of_core same.core home document] at safe
      exact .running (getsOn.running running) (calm.cons_of_same same still) careful
        (same.medium ▸ holds) keeps safe (entered.cons _)
  | failed told calm member =>
      refine .failed (getsOn.tells told) (calm.cons_of_same same still) ?_
      rw [events_cons, silent]
      exact member
  | bound value outcome =>
      refine .bound value ?_
      rcases outcome with ⟨running, done⟩ | told
      · exact .inl ⟨getsOn.running running, done⟩
      · exact .inr (getsOn.tells told)

/-- While the body runs and has not come to a value, it keeps to its rules. -/
theorem running_of_ask (within : Within keeping engine id home document task path hubs body entry)
    (running : entry.IsRunning) (unbound : ∀ value, body ≠ .done (.value value)) :
    ∃ (desk : Desk) (place : keeping.Place) (stored : Option Snapshot)
      (places : DocumentId → keeping.Place), Calm keeping id home document path ∧
        body.Every Section.Careful ∧ keeping.Holds places hubs.medium ∧
        keeping.Keeps place stored ∧
        body.Safe (Section.rules keeping document place task.Consults)
          (Section.AfterBody engine task desk place) (hubs.desk home document, places document) ∧
        Entered keeping id document path stored := by
  cases within with
  | outside idle => exact absurd running idle
  | running _ calm careful holds keeps safe entered =>
      exact ⟨_, _, _, _, calm, careful, holds, keeps, safe, entered⟩
  | failed told => cases Site.Entry.tells_of_running running told
  | bound value outcome =>
      rcases outcome with ⟨-, done⟩ | told
      · exact absurd done (unbound value)
      · cases Site.Entry.tells_of_running running told

/-- The hub answers a call of the body. -/
theorem asked {call : Section.Call} {next : call.Answer → Section Ask Answer (Option Bytes)}
    {answering : Hub} {now : Instant}
    (within : Within keeping engine id home document task path hubs (.ask (.inl call) next) entry)
    (running : entry.IsRunning) (reliable : hubs.Reliable archive engine home)
    (hubFound : hubs.hubs.get? home = some answering)
    (table : (hubs.after move).hubs = hubs.hubs.insert home (answering.answer now call).2)
    (rosters : ∀ hub, (hubs.after move).roster? hub = hubs.roster? hub)
    (medium : (hubs.after move).medium = hubs.medium)
    (archives : (hubs.after move).archive = hubs.archive) (runs : (hubs.after move).Runs id) :
    Within keeping engine id home document task ((hubs, move) :: path) (hubs.after move)
        (next (answering.answer now call).1) entry ∧
      (hubs.after move).Reliable archive engine home := by
  obtain ⟨desk, place, stored, places, calm, careful, holds, keeps, safe, entered⟩ :=
    within.running_of_ask running nofun
  obtain ⟨⟨may, backs⟩, onward⟩ := safe
  obtain ⟨uses, sound⟩ := reliable.uses (core_of_hub hubFound)
  obtain ⟨answers, cores, elsewhere⟩ := answered_of_sound hubFound sound may table
  refine ⟨?_, archives.trans reliable.archive, fun found => ?_⟩
  · rcases careful.1.loading_or_done answers with loading | ⟨value, done⟩
    · have harmless : Harmless keeping id home document hubs (hubs.after move) := by
        refine ⟨rosters, ?_, answers.loaded loading holds backs keeps, .inl medium⟩
        intro hub other apart
        refine elsewhere hub other ?_
        rintro rfl rfl
        exact apart rfl
      exact .running running (calm.cons harmless fun _ stops => absurd runs stops) (careful.2 _)
        (medium ▸ holds) keeps (onward _ (_, places document) ⟨answers, rfl⟩) (entered.cons _)
    · exact .bound value (.inl ⟨running, done⟩)
  · obtain ⟨used, soundAfter⟩ := (cores found).1 rfl
    exact ⟨used.trans uses, soundAfter⟩

/-- The archive answers a question of the body. -/
theorem consulted {question : Ask} {next : Answer question → Section Ask Answer (Option Bytes)}
    {failure : Option Fault}
    (within : Within keeping engine id home document task path hubs (.ask (.inr question) next)
      entry) (running : entry.IsRunning) (runs : hubs.Runs id)
    (still : (hubs.after move).Runs id)
    (happens : ∀ fault ∈ failure, keeping.Happens question fault)
    (medium : (hubs.after move).medium = (Medium.attempt failure question hubs.medium).2)
    (rosters : ∀ hub, (hubs.after move).roster? hub = hubs.roster? hub)
    (core : ∀ hub, (hubs.after move).core hub = hubs.core hub) :
    Within keeping engine id home document task ((hubs, move) :: path) (hubs.after move)
      (next (Medium.attempt failure question hubs.medium).1) entry := by
  obtain ⟨desk, place, stored, places, calm, careful, holds, keeps, safe, entered⟩ :=
    within.running_of_ask running nofun
  obtain ⟨later, answers, holdsAfter⟩ := keeping.answered holds safe.1.2 happens
  rw [← medium] at holdsAfter
  have harmless : Harmless keeping id home document hubs (hubs.after move) :=
    ⟨rosters, fun hub other _ => desk_of_core core hub other,
      .inl (desk_of_core core home document), .inr ⟨runs, places, later, holds, holdsAfter⟩⟩
  have onward : (next (Medium.attempt failure question hubs.medium).1).Safe
      (Section.rules keeping document place task.Consults)
      (Section.AfterBody engine task desk place)
      ((hubs.after move).desk home document, Function.update places document later document) := by
    refine safe.2 _ (_, Function.update places document later document)
      ⟨desk_of_core core home document, ?_⟩
    rw [Function.update_self]
    exact answers
  exact .running running (calm.cons harmless fun _ stops => absurd still stops) (careful.2 _)
    holdsAfter keeps onward (entered.cons _)

/-- The body ends. -/
theorem ended {ending : Operation.Ending (Option Bytes) Section.Error}
    (within : Within keeping engine id home document task path hubs (.done ending) entry)
    (running : entry.IsRunning) (whole : keeping.IsWhole) (same : hubs.Same (hubs.after move))
    (ends : hubs.ending? move = some ⟨id, home, document, task, ending⟩) :
    Within keeping engine id home document task ((hubs, move) :: path) (hubs.after move)
      (.done ending) (entry.bodyEnded ending) := by
  have tells := Site.Entry.tells_bodyEnded running ending
  by_cases bound : ∃ value, ending = .value value
  · obtain ⟨value, rfl⟩ := bound
    exact .bound value (.inr tells)
  · obtain ⟨desk, place, stored, places, calm, careful, holds, keeps, safe, entered⟩ :=
      within.running_of_ask running (fun value done => bound ⟨value, by cases done; rfl⟩)
    obtain ⟨-, did⟩ := safe
    obtain ⟨later, does, kept⟩ := did stored keeps
    obtain ⟨error, rfl, rfl⟩ := (does.stored_of_error whole).resolve_left bound
    refine .failed tells (calm.cons same.harmless fun _ _ => ?_) ?_
    · rw [same.medium, keeping.stored_of_keeps holds (kept nofun)]
      exact entered
    · rw [events_cons, ends]
      exact List.mem_cons_self

/-- Where the operation has failed nothing has changed, and if its body was run, the failure
is that of the body. -/
theorem of_failure {failure : Operation.Failure Section.Error}
    (within : Within keeping engine id home document task path hubs body entry)
    (phase : entry.operation.phase = .finished (.error failure)) :
    Calm keeping id home document path ∧
      ∀ resource cause, failure = .failed resource cause → ∃ task error,
        cause = .error error ∧ ⟨id, home, document, task, .error error⟩ ∈ events path := by
  have still : ¬ entry.IsRunning := by
    rintro ⟨token, runs⟩
    cases phase.symm.trans runs
  cases within with
  | outside idle tells untouched calm readable =>
      rw [phase] at tells
      obtain ⟨resource, ending, told, -⟩ | ⟨other, -, equal, unrun⟩ := tells.cases_result
      · cases told
      · cases equal
        exact ⟨calm, fun resource cause equal => absurd equal (unrun resource cause)⟩
  | running running => exact absurd running still
  | @failed error tells calm member =>
      rw [phase] at tells
      obtain ⟨resource, ending, told, equal⟩ | ⟨other, told, -⟩ := tells.cases_result
      · cases told
        cases equal
        refine ⟨calm, ?_⟩
        rintro _ _ ⟨⟩
        exact ⟨task, error, rfl, member⟩
      · cases told
  | bound value outcome =>
      rcases outcome with ⟨running, -⟩ | tells
      · exact absurd running still
      · rw [phase] at tells
        obtain ⟨resource, ending, told, equal⟩ | ⟨other, told, -⟩ := tells.cases_result
        · cases told
          cases equal
        · cases told

end Within

end Hubs

end Coedit
