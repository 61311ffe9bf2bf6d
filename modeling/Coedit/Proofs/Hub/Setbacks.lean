import Coedit.Proofs.Hub.Calm

/-!
# Errands that fail

How far an errand has come as a whole, from its frame to what its sender is told.  It fails
before the body of its section has come to a value, or not at all.
-/

namespace Coedit.Hubs

variable {S B Fault Ask : Type} {Answer : Ask → Type} [Lease.Store S]
  [Medium B Fault Ask Answer] {archive : Archive Ask Answer}

section

variable [Lease.Lawful S] (keeping : archive.Keeping B Fault) (engine : Engine)
  (own : String → Prop) (id : JobId) (home : HubId) (document : DocumentId) (bytes : Bytes)
  (start : Hubs S B Ask Answer)

/-- An errand inside its section: the calls of the operation so far, and how far its body
has come. -/
structure Underway (now : Instant) (path : List (Hubs S B Ask Answer × Move B Fault))
    (hubs : Hubs S B Ask Answer) (task : Hub.Task) (operation : OperationId)
    (body : Section Ask Answer (Option Bytes))
    (entry : Site.Entry (Option Bytes) Section.Error) : Prop where
  found : hubs.site.operations.get? operation = some entry
  records : entry.Records (.document document) (calls path)
  served : start.site.lockers.ServedBy entry.service own now (calls path) hubs.site.lockers
  within : Within keeping engine id home document task path hubs body entry

/-- How far an errand has come. -/
inductive Progress (now : Instant) (path : List (Hubs S B Ask Answer × Move B Fault))
    (hubs : Hubs S B Ask Answer) : Job Ask Answer → Prop where
  /-- It cannot fail any more. -/
  | free {frame : Frame} {rest : Hub.Handling} (read : Frame.decode bytes = .ok frame)
      (succeeds : Hub.Succeeds rest) : Progress now path hubs ⟨home, rest, none⟩
  | malformed {error : FrameError} (unread : Frame.decode bytes = .error error)
      (calm : Calm keeping id home document path)
      (settled : start.site.lockers.Settled own now (calls path) hubs.site.lockers) :
      Progress now path hubs ⟨home, .done (.error (.malformed error)), none⟩
  | asks {frame : Frame} {task : Hub.Task} {next : Option Bytes → Hub.Handling}
      (read : Frame.decode bytes = .ok frame) (consults : task.Consults)
      (succeeds : ∀ handed, Hub.Succeeds (next handed))
      (calm : Calm keeping id home document path) (uncalled : calls path = [])
      (served : ∀ service, start.site.lockers.ServedBy service own now [] hubs.site.lockers)
      (readable : Readable keeping document hubs.medium) :
      Progress now path hubs ⟨home, Hub.inSection document task next, none⟩
  | inside {frame : Frame} {task : Hub.Task} {next : Option Bytes → Hub.Handling}
      {operation : OperationId} {body : Section Ask Answer (Option Bytes)}
      {entry : Site.Entry (Option Bytes) Section.Error}
      (read : Frame.decode bytes = .ok frame) (consults : task.Consults)
      (succeeds : ∀ handed, Hub.Succeeds (next handed))
      (underway : Underway keeping engine own id home document start now path hubs task operation
        body entry) :
      Progress now path hubs ⟨home, Hub.inSection document task next, some (operation, body)⟩
  | failed {frame : Frame} {failure : Operation.Failure Section.Error}
      (read : Frame.decode bytes = .ok frame) (calm : Calm keeping id home document path)
      (settled : start.site.lockers.Settled own now (calls path) hubs.site.lockers)
      (denied : ∃ before move, (before, move) ∈ path ∧ before.Denies id home document failure)
      (told : ∀ resource cause, failure = .failed resource cause → ∃ task error,
        cause = .error error ∧ ⟨id, home, document, task, .error error⟩ ∈ events path) :
      Progress now path hubs ⟨home, .done (.error (.ofFailure failure)), none⟩

/-- Where an errand stands, at a hub that can be relied on. -/
structure Stands (now : Instant) (path : List (Hubs S B Ask Answer × Move B Fault))
    (hubs : Hubs S B Ask Answer) : Prop where
  reliable : hubs.Reliable archive engine home
  job : ∃ job, hubs.jobs.get? id = some job ∧
    Progress keeping engine own id home document bytes start now path hubs job

end

section

variable [Lease.Lawful S] {keeping : archive.Keeping B Fault} {engine : Engine}
  {own : String → Prop} {id : JobId} {home : HubId} {document : DocumentId} {session : SessionId}
  {bytes : Bytes} {start hubs after : Hubs S B Ask Answer} {now later : Instant}
  {move : Move B Fault}
  {path : List (Hubs S B Ask Answer × Move B Fault)} {job : Job Ask Answer}

/-- Others leave an errand where it is. -/
theorem Progress.others
    (progress : Progress keeping engine own id home document bytes start now path hubs job)
    (found : hubs.jobs.get? id = some job)
    (spares : Spares keeping engine own id home document hubs after) :
    Progress keeping engine own id home document bytes start now path after job := by
  cases progress with
  | free read succeeds => exact .free read succeeds
  | malformed unread calm settled =>
      exact .malformed unread calm (settled.onward (Nat.le_refl _) spares.bars)
  | asks read consults succeeds calm uncalled served readable =>
      have closed : ¬ hubs.Runs id := not_runs_of_closed found rfl
      exact .asks read consults succeeds calm uncalled
        (fun service => (served service).others spares.bars) (spares.readable closed)
  | inside read consults succeeds underway =>
      have opens := operation?_of_found found rfl
      have runs := runs_iff opens underway.found
      refine .inside read consults succeeds ⟨(spares.entry _ opens).trans underway.found,
        underway.records, underway.served.others spares.bars, ?_⟩
      cases underway.within with
      | outside idle tells untouched calm readable =>
          exact .outside idle tells untouched calm (spares.readable (mt runs.mp idle))
      | running running calm careful holds keeps safe entered =>
          obtain ⟨places', holdsAfter, same⟩ := spares.place (runs.mpr running) _ holds
          rw [← spares.desk (runs.mpr running), ← same] at safe
          exact .running running calm careful holdsAfter keeps safe entered
      | failed tells calm member => exact .failed tells calm member
      | bound value outcome => exact .bound value outcome
  | failed read calm settled denied told =>
      exact .failed read calm (settled.onward (Nat.le_refl _) spares.bars) denied told

/-- An errand that is done stays where it is. -/
theorem Progress.done_goesOn {outcome : Hub.Outcome}
    (progress : Progress keeping engine own id home document bytes start now path hubs
      ⟨home, .done outcome, none⟩)
    (found : hubs.jobs.get? id = some ⟨home, .done outcome, none⟩) (aims : move.job? = some id)
    (onward : now ≤ later) (reliable : hubs.Reliable archive engine home) :
    Stands keeping engine own id home document bytes start later ((hubs, move) :: path)
      (hubs.after move) := by
  obtain ⟨silent, uncalled, idle | ⟨hub, call, next, asks, -⟩⟩ := after_of_closed found rfl aims
  · have same : hubs.Same (hubs.after move) := by rw [idle]
    have closed : ¬ hubs.Runs id := not_runs_of_closed found rfl
    have settles : start.site.lockers.Settled own now (calls path) hubs.site.lockers →
        start.site.lockers.Settled own later (calls ((hubs, move) :: path))
          (hubs.after move).site.lockers := by
      intro settled
      rw [calls_cons, uncalled, idle]
      exact settled.onward onward fun token _ => Lock.Lockers.Bars.refl _ token
    refine ⟨reliable.of_core same.archive same.core, ⟨home, .done outcome, none⟩, ?_, ?_⟩
    · rw [idle]
      exact found
    cases progress with
    | free read succeeds => exact .free read succeeds
    | malformed unread calm settled =>
        exact .malformed unread (calm.cons_of_same same (absurd · closed)) (settles settled)
    | failed read calm settled denied told =>
        obtain ⟨before, move', member, denies⟩ := denied
        refine .failed read (calm.cons_of_same same (absurd · closed)) (settles settled)
          ⟨before, move', List.mem_cons_of_mem _ member, denies⟩ ?_
        rw [events_cons, silent]
        exact told
  · cases asks

/-- An errand that cannot fail any more goes on so. -/
theorem Progress.free_goesOn {frame : Frame} {rest : Hub.Handling}
    (read : Frame.decode bytes = .ok frame) (succeeds : Hub.Succeeds rest)
    (found : hubs.jobs.get? id = some ⟨home, rest, none⟩) (aims : move.job? = some id)
    (reliable : hubs.Reliable archive engine home) :
    Stands keeping engine own id home document bytes start later ((hubs, move) :: path)
      (hubs.after move) := by
  obtain ⟨-, -, idle | ⟨hub, call, next, asks, hubFound, answers⟩⟩ := after_of_closed found rfl aims
  · rw [idle]
    exact ⟨reliable, _, found, .free read succeeds⟩
  · cases asks
    obtain ⟨plain, onward⟩ := succeeds
    obtain ⟨answer, jobs, core, archives⟩ := answer_plain id hubFound plain next
    rw [answers]
    exact ⟨reliable.of_core archives core, _, jobs, .free read (onward answer)⟩

/-- The section of an errand is turned down. -/
theorem Progress.turnedDown {frame : Frame} {hub : Hub} {failure : Operation.Failure Section.Error}
    (read : Frame.decode bytes = .ok frame) (calm : Calm keeping id home document path)
    (uncalled : calls ((hubs, move) :: path) = [])
    (served : ∀ service, start.site.lockers.ServedBy service own now [] hubs.site.lockers)
    (hubFound : hubs.hubs.get? home = some hub)
    (turned : hubs.site.enter hub.service (.document document) none = .error failure)
    (closed : ¬ hubs.Runs id)
    (answers : hubs.after move =
      hubs.setJob id ⟨home, .done (.error (.ofFailure failure)), none⟩) :
    Progress keeping engine own id home document bytes start now ((hubs, move) :: path)
      (hubs.after move) ⟨home, .done (.error (.ofFailure failure)), none⟩ := by
  have same : hubs.Same (hubs.after move) := answers ▸ (Same.refl hubs).setJob ..
  refine .failed read (calm.cons_of_same same (absurd · closed)) ?_
    ⟨hubs, move, List.mem_cons_self, .inl ⟨hub, hubFound, turned⟩⟩ ?_
  · rw [uncalled, answers]
    exact Lock.Lockers.settled_of_uncalled served
  · rintro resource cause rfl
    cases Site.enter_eq_error turned

/-- The section of an errand is opened. -/
theorem Progress.opened {frame : Frame} {task : Hub.Task} {next : Option Bytes → Hub.Handling}
    {operation : OperationId} {hub : Hub} {site : Site S (Option Bytes) Section.Error}
    (read : Frame.decode bytes = .ok frame) (consults : task.Consults)
    (succeeds : ∀ handed, Hub.Succeeds (next handed)) (calm : Calm keeping id home document path)
    (uncalled : calls ((hubs, move) :: path) = [])
    (served : ∀ service, start.site.lockers.ServedBy service own now [] hubs.site.lockers)
    (readable : Readable keeping document hubs.medium)
    (entered : hubs.site.enter hub.service (.document document) none = .ok (operation, site))
    (uses : hub.engine = engine) (archives : hubs.archive = archive)
    (closed : ¬ hubs.Runs id)
    (answers : hubs.after move = setJob { hubs with site := site } id
      ⟨home, Hub.inSection document task next,
        some (operation, Hubs.body hubs.archive hub.engine document task)⟩) :
    Progress keeping engine own id home document bytes start now ((hubs, move) :: path)
      (hubs.after move) ⟨home, Hub.inSection document task next,
        some (operation, Hubs.body hubs.archive hub.engine document task)⟩ := by
  obtain ⟨settings, wait, lockers, entry⟩ := Site.enter_eq_ok entered
  have same : hubs.Same (hubs.after move) := answers ▸ ((Same.refl hubs).withSite site).setJob ..
  have calm := calm.cons_of_same same (absurd · closed)
  have readable : Readable keeping document (hubs.after move).medium := same.medium ▸ readable
  rw [answers] at readable ⊢
  refine .inside read consults succeeds ⟨entry, ?_, ?_,
    .outside ?_ .idle (fun _ => by rw [uses, archives]) calm readable⟩
  · rw [uncalled]
    exact Site.Entry.records_create ..
  · rw [uncalled]
    exact lockers ▸ served hub.service
  · rintro ⟨token, phase⟩
    cases phase

/-- A section is opened, or turned down. -/
theorem Progress.asks_goesOn {frame : Frame} {task : Hub.Task} {next : Option Bytes → Hub.Handling}
    (read : Frame.decode bytes = .ok frame) (consults : task.Consults)
    (succeeds : ∀ handed, Hub.Succeeds (next handed)) (calm : Calm keeping id home document path)
    (uncalled : calls path = [])
    (served : ∀ service, start.site.lockers.ServedBy service own now [] hubs.site.lockers)
    (readable : Readable keeping document hubs.medium)
    (found : hubs.jobs.get? id = some ⟨home, Hub.inSection document task next, none⟩)
    (aims : move.job? = some id) (reliable : hubs.Reliable archive engine home) :
    Stands keeping engine own id home document bytes start now ((hubs, move) :: path)
      (hubs.after move) := by
  obtain ⟨-, quiet, outcome⟩ := after_of_closed found rfl aims
  have closed : ¬ hubs.Runs id := not_runs_of_closed found rfl
  have log : calls ((hubs, move) :: path) = [] := by
    rw [calls_cons, quiet, uncalled]
    rfl
  rcases outcome with idle | ⟨hub, call, onwards, asks, hubFound, answers⟩
  · have same : hubs.Same (hubs.after move) := by rw [idle]
    have calm := calm.cons_of_same same (absurd · closed)
    rw [idle]
    exact ⟨reliable, _, found, .asks read consults succeeds calm log served readable⟩
  · cases asks
    simp only [answer] at answers
    split at answers
    · next failure turned =>
        have same : hubs.Same (hubs.after move) := answers ▸ (Same.refl hubs).setJob ..
        refine ⟨reliable.of_core same.archive same.core, _, ?_,
          .turnedDown read calm log served hubFound turned closed answers⟩
        rw [answers]
        exact Table.get?_insert_self ..
    · next operation site entered =>
        obtain ⟨uses, -⟩ := reliable.uses (core_of_hub hubFound)
        have same : hubs.Same (hubs.after move) :=
          answers ▸ ((Same.refl hubs).withSite site).setJob ..
        refine ⟨reliable.of_core same.archive same.core, _, ?_,
          .opened read consults succeeds calm log served readable entered uses reliable.archive
            closed answers⟩
        rw [answers]
        exact Table.get?_insert_self ..

end

/-! ## Inside its section -/

namespace Underway

variable [Lease.Lawful S] {keeping : archive.Keeping B Fault} {engine : Engine}
  {own : String → Prop} {id : JobId} {home : HubId} {document : DocumentId}
  {start hubs : Hubs S B Ask Answer} {now moment : Instant} {move : Move B Fault}
  {path : List (Hubs S B Ask Answer × Move B Fault)} {task : Hub.Task}
  {next : Except (Operation.Failure Section.Error) (Option Bytes) → Hub.Handling}
  {operation : OperationId} {body : Section Ask Answer (Option Bytes)}
  {entry changed : Site.Entry (Option Bytes) Section.Error}

/-- The operation gets on with its lock. -/
theorem gotOn (underway : Underway keeping engine own id home document start now path hubs task
      operation body entry) (steady : engine.IsSteady) (consults : task.Consults)
    (opens : hubs.operation? id = some operation) (jobs : (hubs.after move).jobs = hubs.jobs)
    (same : hubs.Same (hubs.after move)) (silent : hubs.ending? move = none)
    (getsOn : entry.GetsOn changed)
    (found : (hubs.after move).site.operations.get? operation = some changed)
    (records : changed.Records (.document document) (calls ((hubs, move) :: path)))
    (served : start.site.lockers.ServedBy changed.service own moment (calls ((hubs, move) :: path))
      (hubs.after move).site.lockers) :
    Underway keeping engine own id home document start moment ((hubs, move) :: path)
      (hubs.after move) task operation body changed := by
  have runs := runs_iff opens underway.found
  have opensAfter : (hubs.after move).operation? id = some operation := by
    rw [operation?, jobs]
    exact opens
  have runsAfter := runs_iff opensAfter found
  exact ⟨found, records, served,
    underway.within.locked steady consults getsOn runs runsAfter same silent⟩

/-- A call of the operation takes effect, or nothing happens. -/
theorem performed (underway : Underway keeping engine own id home document start now path hubs task
      operation body entry) (steady : engine.IsSteady) (consults : task.Consults)
    (opens : hubs.operation? id = some operation) (failure : Option StoreError)
    (onward : now ≤ moment) :
    ∃ changed, Underway keeping engine own id home document start moment
      ((hubs, .perform id failure moment) :: path)
      (hubs.after (.perform id failure moment : Move B Fault)) task operation body changed := by
  have moved : hubs.after (.perform id failure moment : Move B Fault) = _ :=
    after_perform opens failure moment
  have jobs : (hubs.after (.perform id failure moment : Move B Fault)).jobs = hubs.jobs := by
    rw [moved]
  have same : hubs.Same (hubs.after (.perform id failure moment : Move B Fault)) :=
    moved ▸ (Same.refl hubs).withSite _
  rcases call?_perform opens underway.found failure moment with
    ⟨call, need, unanswered, called⟩ | ⟨idle, uncalled⟩
  · obtain ⟨lockers, -, operations⟩ :=
      Site.perform_of_need underway.found need unanswered failure moment
    refine ⟨{ entry with
        reply := some (hubs.site.lockers.call entry.service failure moment call).1 },
      underway.gotOn steady consults opens jobs same rfl (.inr rfl) ?_ ?_ ?_⟩
    · rw [moved]
      exact (operations operation).trans (if_pos rfl)
    · rw [calls_cons, called]
      exact underway.records.performed need unanswered _
    · rw [calls_cons, called, moved]
      exact lockers ▸ underway.served.called failure onward call
  · refine ⟨entry, underway.gotOn steady consults opens jobs same rfl (.inr rfl) ?_ ?_ ?_⟩
    · rw [moved, idle]
      exact underway.found
    · rw [calls_cons, uncalled]
      exact underway.records
    · rw [calls_cons, uncalled, moved, idle]
      exact underway.served.mono onward

/-- The operation begins, an answer arrives, or a pause is over. -/
theorem resumed {moment : Lock.Moment}
    (underway : Underway keeping engine own id home document start now path hubs task operation
      body entry) (steady : engine.IsSteady) (consults : task.Consults)
    (opens : hubs.operation? id = some operation) (jobs : (hubs.after move).jobs = hubs.jobs)
    (same : hubs.Same (hubs.after move)) (silent : hubs.ending? move = none)
    (uncalled : hubs.call? move = none)
    (site : (hubs.after move).site = hubs.site.resume operation moment) :
    Underway keeping engine own id home document start now ((hubs, move) :: path)
      (hubs.after move) task operation body (entry.resumed moment) := by
  refine underway.gotOn steady consults opens jobs same silent (.inl ⟨moment, rfl⟩) ?_ ?_ ?_
  · rw [site, Site.get?_resume, if_pos rfl, underway.found, Option.map_some]
  · rw [calls_cons, uncalled]
    exact underway.records.resumed moment
  · rw [calls_cons, uncalled, site, (Site.lockers_resume ..).1, Site.Entry.service_resumed]
    exact underway.served

/-- A move with which neither the operation nor its body gets on. -/
theorem idle (underway : Underway keeping engine own id home document start now path hubs task
      operation body entry) (steady : engine.IsSteady) (consults : task.Consults)
    (opens : hubs.operation? id = some operation) (jobs : (hubs.after move).jobs = hubs.jobs)
    (same : hubs.Same (hubs.after move)) (silent : hubs.ending? move = none)
    (uncalled : hubs.call? move = none) (site : (hubs.after move).site = hubs.site) :
    Underway keeping engine own id home document start now ((hubs, move) :: path)
      (hubs.after move) task operation body entry := by
  refine underway.gotOn steady consults opens jobs same silent (.inr rfl) ?_ ?_ ?_
  · rw [site]
    exact underway.found
  · rw [calls_cons, uncalled]
    exact underway.records
  · rw [calls_cons, uncalled, site]
    exact underway.served

/-- The body gets on, and the operation stays where it is. -/
theorem of_within {later : Section Ask Answer (Option Bytes)}
    (underway : Underway keeping engine own id home document start now path hubs task
      operation body entry) (uncalled : hubs.call? move = none)
    (site : (hubs.after move).site = hubs.site)
    (within : Within keeping engine id home document task ((hubs, move) :: path) (hubs.after move)
      later entry) :
    Underway keeping engine own id home document start now ((hubs, move) :: path)
      (hubs.after move) task operation later entry := by
  refine ⟨?_, ?_, ?_, within⟩
  · rw [site]
    exact underway.found
  · rw [calls_cons, uncalled]
    exact underway.records
  · rw [calls_cons, uncalled, site]
    exact underway.served

/-- The body ends. -/
theorem ended {ending : Operation.Ending (Option Bytes) Section.Error}
    (underway : Underway keeping engine own id home document start now path hubs task
      operation (.done ending) entry) (running : entry.IsRunning) (whole : keeping.IsWhole)
    (same : hubs.Same (hubs.after move)) (uncalled : hubs.call? move = none)
    (ends : hubs.ending? move = some ⟨id, home, document, task, ending⟩)
    (site : (hubs.after move).site = hubs.site.bodyEnded operation ending) :
    Underway keeping engine own id home document start now ((hubs, move) :: path)
      (hubs.after move) task operation (.done ending) (entry.bodyEnded ending) := by
  refine ⟨?_, ?_, ?_, underway.within.ended running whole same ends⟩
  · rw [site, Site.get?_bodyEnded, if_pos rfl, underway.found, Option.map_some]
  · rw [calls_cons, uncalled]
    exact underway.records.bodyEnded running ending
  · rw [calls_cons, uncalled, site, (Site.lockers_bodyEnded ..).1]
    exact underway.served

/-- The section is over. -/
theorem closed {frame : Frame} {next : Option Bytes → Hub.Handling}
    {rest : Except (Operation.Failure Section.Error) (Option Bytes) → Hub.Handling}
    {result : Except (Operation.Failure Section.Error) (Option Bytes)}
    (underway : Underway keeping engine own id home document start now path hubs task
      operation body entry) (read : Frame.decode bytes = .ok frame)
    (succeeds : ∀ handed, Hub.Succeeds (next handed))
    (asks : Hub.inSection document task next = .ask (.section document task) rest)
    (opens : hubs.operation? id = some operation)
    (finished : hubs.site.result? operation = some result)
    (same : hubs.Same (hubs.after move)) (silent : hubs.ending? move = none)
    (uncalled : hubs.call? move = none) (site : (hubs.after move).site = hubs.site) :
    Progress keeping engine own id home document bytes start now ((hubs, move) :: path)
      (hubs.after move) ⟨home, rest result, none⟩ := by
  cases asks
  cases result with
  | ok handed => exact .free read (succeeds handed)
  | error failure =>
      have resulted : entry.operation.result? = some (.error failure) := by
        simpa [Site.result?, Site.operation?, underway.found] using finished
      have phase := Operation.finished_of_result resulted
      have closed : ¬ hubs.Runs id := by
        rintro ⟨other, opens', runs⟩
        cases opens.symm.trans opens'
        exact Site.need?_of_result? finished runs
      have settled : start.site.lockers.Settled own now (calls ((hubs, move) :: path))
          (hubs.after move).site.lockers := by
        rw [calls_cons, uncalled, site]
        exact underway.records.settled resulted underway.served
      have denied : ∃ before move', (before, move') ∈ (hubs, move) :: path ∧
          before.Denies id home document failure :=
        ⟨hubs, move, List.mem_cons_self, .inr ⟨operation, opens, finished⟩⟩
      obtain ⟨calm, told⟩ := underway.within.of_failure phase
      refine .failed read (calm.cons_of_same same (absurd · closed)) settled denied ?_
      rw [events_cons, silent]
      exact told

/-- The body of the section gets on by one step, or its operation. -/
theorem stepped {frame : Frame} {next : Option Bytes → Hub.Handling} {moment : Lock.Moment}
    (underway : Underway keeping engine own id home document start now path hubs task
      operation body entry) (read : Frame.decode bytes = .ok frame) (consults : task.Consults)
    (succeeds : ∀ handed, Hub.Succeeds (next handed)) (steady : engine.IsSteady)
    (whole : keeping.IsWhole) (reliable : hubs.Reliable archive engine home)
    (found : hubs.jobs.get? id =
      some ⟨home, Hub.inSection document task next, some (operation, body)⟩) :
    Stands keeping engine own id home document bytes start now ((hubs, .step id moment) :: path)
      (hubs.after (.step id moment : Move B Fault)) := by
  have opens := operation?_of_found found rfl
  have rosters : ∀ hub, (hubs.after (.step id moment : Move B Fault)).roster? hub = _ :=
    roster?_after found rfl rfl
  have effect : hubs.Effect (.step id moment : Move B Fault) _ := effect_after _
  cases effect with
  | quiet idle silent beside site medium core jobs =>
      have onward := underway.idle steady consults opens jobs
        ⟨rosters, core, medium, beside.archive⟩ silent rfl site
      exact ⟨reliable.of_core beside.archive core, _, jobs ▸ found,
        .inside read consults succeeds onward⟩
  | begun begins => cases begins
  | replied found' rest plain =>
      cases found.symm.trans found'
      cases rest
      exact absurd rfl (plain _ _)
  | refused found' rest unopened =>
      cases found.symm.trans found'
      cases unopened
  | opened found' hubFound rest unopened =>
      cases found.symm.trans found'
      cases unopened
  | locked idle silent found' isOpen kind beside site medium core jobs =>
      rcases kind with ⟨_, rfl, aims | aims⟩ | ⟨_, _, -, aims⟩
      · cases aims
      · cases aims
        cases found.symm.trans found'
        cases isOpen
        have onward := underway.resumed steady consults opens jobs
          ⟨rosters, core, medium, beside.archive⟩ silent rfl site
        exact ⟨reliable.of_core beside.archive core, _, jobs ▸ found,
          .inside read consults succeeds onward⟩
      · cases aims
  | ended found' hubFound rest isOpen runs beside site medium core jobs =>
      cases found.symm.trans found'
      cases rest
      cases isOpen
      have running := (runs_iff opens underway.found).mp ⟨operation, opens, runs⟩
      have onward := underway.ended running whole ⟨rosters, core, medium, beside.archive⟩ rfl
        (ending?_of_done found hubFound rfl rfl runs moment) site
      exact ⟨reliable.of_core beside.archive core, _, jobs ▸ found,
        .inside read consults succeeds onward⟩
  | asked found' hubFound isOpen runs beside site medium table jobs silent =>
      cases found.symm.trans found'
      cases isOpen
      have running := (runs_iff opens underway.found).mp ⟨operation, opens, runs⟩
      have foundAfter := (jobs id).trans (if_pos rfl)
      have still : (hubs.after (.step id moment : Move B Fault)).Runs id :=
        ⟨operation, operation?_of_found foundAfter rfl, site ▸ runs⟩
      obtain ⟨within, reliableAfter⟩ := underway.within.asked running reliable hubFound table
        rosters medium beside.archive still
      exact ⟨reliableAfter, _, foundAfter,
        .inside read consults succeeds (underway.of_within rfl site within)⟩
  | closed found' rest isOpen finished beside site medium core jobs silent =>
      cases found.symm.trans found'
      cases rest
      cases isOpen
      exact ⟨reliable.of_core beside.archive core, _, (jobs id).trans (if_pos rfl),
        underway.closed read succeeds rfl opens finished ⟨rosters, core, medium, beside.archive⟩
          silent rfl site⟩

/-- The archive answers a question of the body. -/
theorem consulted {frame : Frame} {next : Option Bytes → Hub.Handling} {failure : Option Fault}
    (underway : Underway keeping engine own id home document start now path hubs task
      operation body entry) (read : Frame.decode bytes = .ok frame) (consults : task.Consults)
    (succeeds : ∀ handed, Hub.Succeeds (next handed)) (steady : engine.IsSteady)
    (reliable : hubs.Reliable archive engine home)
    (found : hubs.jobs.get? id =
      some ⟨home, Hub.inSection document task next, some (operation, body)⟩)
    (permitted : hubs.Permits keeping (.consult id failure)) :
    Stands keeping engine own id home document bytes start now ((hubs, .consult id failure) :: path)
      (hubs.after (.consult id failure : Move B Fault)) := by
  have opens := operation?_of_found found rfl
  have rosters : ∀ hub, (hubs.after (.consult id failure : Move B Fault)).roster? hub = _ :=
    roster?_after found rfl rfl
  have effect : hubs.Effect (.consult id failure : Move B Fault) _ := effect_after _
  cases effect with
  | quiet idle silent beside site medium core jobs =>
      have onward := underway.idle steady consults opens jobs
        ⟨rosters, core, medium, beside.archive⟩ silent rfl site
      exact ⟨reliable.of_core beside.archive core, _, jobs ▸ found,
        .inside read consults succeeds onward⟩
  | begun begins => cases begins
  | locked idle silent found' isOpen kind =>
      rcases kind with ⟨_, -, aims | aims⟩ | ⟨_, _, -, aims⟩ <;> cases aims
  | @consulted _ _ _ _ _ question _ found' isOpen beside site medium core jobs =>
      cases found.symm.trans found'
      cases isOpen
      obtain ⟨need, happens⟩ := permitted
      have runs : hubs.Runs id := ⟨operation, opens, body_of_need? need found rfl⟩
      have asks : question ∈ hubs.question? id := by
        simp only [question?, found, Option.mem_def]
      have foundAfter := (jobs id).trans (if_pos rfl)
      have still : (hubs.after (.consult id failure : Move B Fault)).Runs id :=
        ⟨operation, operation?_of_found foundAfter rfl, site ▸ body_of_need? need found rfl⟩
      have within := underway.within.consulted ((runs_iff opens underway.found).mp runs) runs still
        (happens _ asks) medium rosters core
      exact ⟨reliable.of_core beside.archive core, _, foundAfter,
        .inside read consults succeeds (underway.of_within rfl site within)⟩

/-- Every move of an errand inside its section leads on. -/
theorem goesOn {frame : Frame} {next : Option Bytes → Hub.Handling}
    (underway : Underway keeping engine own id home document start now path hubs task
      operation body entry) (read : Frame.decode bytes = .ok frame) (consults : task.Consults)
    (succeeds : ∀ handed, Hub.Succeeds (next handed)) (steady : engine.IsSteady)
    (whole : keeping.IsWhole) (reliable : hubs.Reliable archive engine home)
    (found : hubs.jobs.get? id =
      some ⟨home, Hub.inSection document task next, some (operation, body)⟩)
    (aims : move.job? = some id) (onward : ∀ time ∈ move.time?, now ≤ time)
    (permitted : ∀ failure, move = .consult id failure → hubs.Permits keeping move) :
    Stands keeping engine own id home document bytes start (move.time?.getD now)
      ((hubs, move) :: path) (hubs.after move) := by
  have opens := operation?_of_found found rfl
  cases move with
  | step target moment =>
      cases aims
      exact underway.stepped read consults succeeds steady whole reliable found
  | perform target failure moment =>
      cases aims
      obtain ⟨changed, performed⟩ :=
        underway.performed steady consults opens failure (onward moment rfl)
      refine ⟨?_, _, ?_, .inside read consults succeeds performed⟩
      · rw [after_perform opens]
        exact reliable.of_core rfl fun _ => rfl
      · rw [after_perform opens]
        exact found
  | resume target moment =>
      cases aims
      have moved : hubs.after (.resume id moment : Move B Fault) = _ := after_resume opens moment
      have jobs : (hubs.after (.resume id moment : Move B Fault)).jobs = hubs.jobs := by
        rw [moved]
      have site : (hubs.after (.resume id moment : Move B Fault)).site =
          hubs.site.resume operation moment := by
        rw [moved]
      have same : hubs.Same (hubs.after (.resume id moment : Move B Fault)) :=
        moved ▸ (Same.refl hubs).withSite _
      exact ⟨reliable.of_core same.archive same.core, _, jobs ▸ found,
        .inside read consults succeeds
          (underway.resumed steady consults opens jobs same rfl rfl site)⟩
  | consult target failure =>
      cases aims
      exact underway.consulted read consults succeeds steady reliable found (permitted failure rfl)
  | _ => cases aims

end Underway

section

variable [Lease.Lawful S] {keeping : archive.Keeping B Fault} {engine : Engine}
  {own : String → Prop} {id : JobId} {home : HubId} {document : DocumentId} {session : SessionId}
  {bytes : Bytes} {start hubs : Hubs S B Ask Answer} {now : Instant} {move : Move B Fault}
  {path : List (Hubs S B Ask Answer × Move B Fault)} {job : Job Ask Answer}

/-- Every move of an errand leads on. -/
theorem Progress.goesOn
    (progress : Progress keeping engine own id home document bytes start now path hubs job)
    (steady : engine.IsSteady) (whole : keeping.IsWhole)
    (reliable : hubs.Reliable archive engine home) (found : hubs.jobs.get? id = some job)
    (aims : move.job? = some id) (onward : ∀ time ∈ move.time?, now ≤ time)
    (permitted : ∀ failure, move = .consult id failure → hubs.Permits keeping move) :
    Stands keeping engine own id home document bytes start (move.time?.getD now)
      ((hubs, move) :: path) (hubs.after move) := by
  have later : now ≤ move.time?.getD now := by
    cases time : move.time? with
    | none => exact Nat.le_refl _
    | some later => exact onward later time
  cases progress with
  | free read succeeds => exact free_goesOn read succeeds found aims reliable
  | malformed unread calm settled =>
      exact done_goesOn (.malformed unread calm settled) found aims later reliable
  | asks read consults succeeds calm uncalled served readable =>
      exact asks_goesOn read consults succeeds calm uncalled
        (fun service => (served service).mono later) readable found aims reliable
  | inside read consults succeeds underway =>
      exact underway.goesOn read consults succeeds steady whole reliable found aims onward permitted
  | failed read calm settled denied told =>
      exact done_goesOn (.failed read calm settled denied told) found aims later reliable

/-- An errand begins with what its frame asks for. -/
theorem progress_of_begun (readable : Readable keeping document start.medium) :
    Progress keeping engine own id home document bytes start now
      ([] : List (Hubs S B Ask Answer × Move B Fault))
      (start.after (.frame home document session bytes : Move B Fault))
      ⟨home, Hub.handleBytes document session bytes, none⟩ := by
  have served : ∀ service, start.site.lockers.ServedBy service own now [] start.site.lockers :=
    fun service => ⟨now, Nat.le_refl _, .start⟩
  unfold Hub.handleBytes
  split
  · next frame read =>
      rcases Hub.handle_cases document session frame with
        succeeds | ⟨task, next, consults, succeeds, asks⟩
      · exact .free read succeeds
      · rw [asks]
        exact .asks read consults succeeds calm_nil rfl served readable
  · next error unread =>
      exact .malformed unread calm_nil (Lock.Lockers.settled_of_uncalled served)

/-- How far an errand has come at any time. -/
theorem Errand.progress
    (errand : Errand keeping engine own id home document session bytes start now path hubs)
    (steady : engine.IsSteady) (whole : keeping.IsWhole) :
    Stands keeping engine own id home document bytes start now path hubs := by
  induction errand with
  | begun number reliable readable =>
      refine ⟨reliable.of_core rfl fun _ => rfl, _, ?_, progress_of_begun readable⟩
      rw [← number]
      exact Table.get?_insert_self ..
  | goesOn errand aims onward consults ih =>
      obtain ⟨reliable, job, found, progress⟩ := ih
      exact progress.goesOn steady whole reliable found aims onward consults
  | others errand spares ih =>
      obtain ⟨-, job, found, progress⟩ := ih
      exact ⟨spares.reliable, job, spares.job.trans found, progress.others found spares⟩

end

end Coedit.Hubs
