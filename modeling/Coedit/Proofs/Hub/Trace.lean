import Coedit.Proofs.Hub.Serial

/-!
# What became of a frame

Each job comes from one move, and goes by the answers it was given.  A section answers
it as its body ended, or with the reason why no body was run; so how a frame was
handled tells what became of its section, and the other way round.
-/

namespace Coedit

namespace Program

variable {Ask : Type} {Answer : Ask → Type} {α : Type}

/-- Whether answers, latest first, lead a program to what is left of it. -/
inductive Leads (program : Program Ask Answer α) :
    List ((question : Ask) × Answer question) → Program Ask Answer α → Prop where
  | start : Leads program [] program
  | answered {given : List ((question : Ask) × Answer question)} {question : Ask}
      {next : Answer question → Program Ask Answer α}
      (leads : Leads program given (.ask question next)) (answer : Answer question) :
      Leads program (⟨question, answer⟩ :: given) (next answer)

namespace Leads

variable {given : List ((question : Ask) × Answer question)} {rest : Program Ask Answer α}

/-- A program that is done asks nothing. -/
theorem of_done {value : α} (leads : (done value : Program Ask Answer α).Leads given rest) :
    given = [] ∧ rest = .done value := by
  induction leads with
  | start => exact ⟨rfl, rfl⟩
  | answered leads answer ih => cases ih.2

/-- A program that asks is at its question, or goes on as its first answer says. -/
theorem of_ask {question : Ask} {next : Answer question → Program Ask Answer α}
    (leads : (ask question next).Leads given rest) :
    given = [] ∧ rest = .ask question next ∨
      ∃ answer later, given = later ++ [⟨question, answer⟩] ∧ (next answer).Leads later rest := by
  induction leads with
  | start => exact .inl ⟨rfl, rfl⟩
  | answered leads answer ih =>
      right
      rcases ih with ⟨rfl, equal⟩ | ⟨first, later, rfl, onwards⟩
      · cases equal
        exact ⟨answer, [], rfl, .start⟩
      · exact ⟨first, _ :: later, rfl, onwards.answered answer⟩

end Leads

end Program

namespace Operation

variable {α ε : Type} {operation : Operation α ε}

/-- How the body of an operation ended, or that it has not, as told by its phase: a
result without a body is a reason why none was run. -/
inductive Phase.Tells : Phase α ε → Option (Ending α ε) → Prop where
  | idle : Tells .idle none
  | acquiring (acquisition : Lock.Acquisition) : Tells (.acquiring acquisition) none
  | running (token : String) : Tells (.running token) none
  | releasing (token : String) (ending : Ending α ε) : Tells (.releasing token ending) (some ending)
  | ended (resource : String) (ending : Ending α ε) :
      Tells (.finished (resultOf resource ending)) (some ending)
  | failed {failure : Failure ε} (unrun : ∀ resource cause, failure ≠ .failed resource cause) :
      Tells (.finished (.error failure)) none

/-- A result comes from how the body ended, or is a reason why none was run. -/
theorem Phase.Tells.cases_result {result : Except (Failure ε) α} {told : Option (Ending α ε)}
    (tells : Phase.Tells (.finished result) told) :
    (∃ resource ending, told = some ending ∧ result = resultOf resource ending) ∨
      ∃ failure, told = none ∧ result = .error failure ∧
        ∀ resource cause, failure ≠ .failed resource cause := by
  generalize equal : Phase.finished result = phase at tells
  cases tells with
  | ended resource ending =>
      cases equal
      exact .inl ⟨resource, ending, rfl, rfl⟩
  | failed unrun =>
      cases equal
      exact .inr ⟨_, rfl, rfl, unrun⟩
  | _ => cases equal

theorem tells_follow (acquisition : Lock.Acquisition) :
    (operation.follow acquisition).phase.Tells none := by
  unfold follow
  split
  · exact .acquiring _
  · exact .running _
  · next failure _ =>
      refine .failed ?_
      intro resource cause
      cases failure <;> simp [Failure.ofLock]

end Operation

namespace Site.Entry

variable {α ε : Type} {entry : Entry α ε} {told : Option (Operation.Ending α ε)}

theorem tells_resumed (tells : entry.operation.phase.Tells told) (moment : Lock.Moment) :
    (entry.resumed moment).operation.phase.Tells told := by
  unfold resumed Operation.need?
  cases phase : entry.operation.phase with
  | idle =>
      rw [phase] at tells
      cases tells
      simp only [Operation.begin, phase]
      split
      · refine .failed ?_
        intro resource cause
        simp
      · exact .acquiring _
  | acquiring acquisition =>
      rw [phase] at tells
      cases tells
      cases need : acquisition.need? with
      | none => simpa [need, phase] using Operation.Phase.Tells.acquiring acquisition
      | some inner =>
          cases inner with
          | call call =>
              cases answer : entry.reply with
              | none => simpa [need, answer, phase] using Operation.Phase.Tells.acquiring acquisition
              | some reply =>
                  simpa [need, answer, Operation.answered, phase] using Operation.tells_follow _
          | pause pause =>
              simpa [need, Operation.rested, phase] using Operation.tells_follow _
  | running token => simpa [phase] using tells
  | releasing token ending =>
      rw [phase] at tells
      cases tells
      cases answer : entry.reply with
      | none => simpa [answer, phase] using Operation.Phase.Tells.releasing token ending
      | some reply =>
          simpa [answer, Operation.answered, phase] using Operation.Phase.Tells.ended _ ending
  | finished result => simpa [phase] using tells
  | abandoned => simpa [phase] using tells

theorem tells_of_running (running : entry.IsRunning) (tells : entry.operation.phase.Tells told) :
    told = none := by
  obtain ⟨token, phase⟩ := running
  rw [phase] at tells
  cases tells
  rfl

theorem tells_bodyEnded (running : entry.IsRunning) (ending : Operation.Ending α ε) :
    (entry.bodyEnded ending).operation.phase.Tells (some ending) := by
  obtain ⟨token, phase⟩ := running
  simp only [bodyEnded, Operation.bodyEnded, phase]
  exact .releasing token ending

end Site.Entry

namespace Site

variable {S α ε : Type} [Lease.Store S] [Lease.Lawful S] {site after : Site S α ε}
  {move : Move α ε}

/-- How the body of an operation ended is changed by nothing but its end. -/
theorem Exclusive.tells (exclusive : site.Exclusive) (effect : site.Effect move after)
    {id : OperationId} {entry : Entry α ε} {told : Option (Operation.Ending α ε)}
    (found : site.operations.get? id = some entry) (tells : entry.operation.phase.Tells told)
    (goesOn : ∀ ending, move ≠ .bodyEnded id ending) :
    ∃ later, after.operations.get? id = some later ∧ later.operation.phase.Tells told := by
  obtain ⟨later, laterFound, rfl | follows⟩ := exclusive.onward effect found
  · exact ⟨later, laterFound, tells⟩
  · refine ⟨later, laterFound, ?_⟩
    generalize after.lockers = lockers at follows
    cases follows with
    | performed need unanswered => exact tells
    | resumed => exact Entry.tells_resumed tells _
    | @bodyEnded ending => exact absurd rfl (goesOn ending)
    | cancelled =>
        rw [Entry.cancelled, Operation.phase_cancel]
        exact tells

end Site

namespace Hubs

variable {S B Fault Ask : Type} {Answer : Ask → Type}

/-- The sections of a job that have ended on a path, latest first. -/
def eventsBy (id : JobId) (path : List (Hubs S B Ask Answer × Move B Fault)) : List Event :=
  (events path).filter fun event => event.job = id

/-- What is recorded of a section whose body has ended, or has not. -/
def recorded (id : JobId) (hub : HubId) (document : DocumentId) (task : Hub.Task)
    (told : Option (Operation.Ending (Option Bytes) Section.Error)) : List Event :=
  (told.map fun ending => ⟨id, hub, document, task, ending⟩).toList

/-- The sections that ended while a job was given its answers, both latest first. -/
inductive Accounts (id : JobId) (hub : HubId) :
    List ((call : Hub.Call) × call.Answer) → List Event → Prop where
  | start : Accounts id hub [] []
  | plain {given : List ((call : Hub.Call) × call.Answer)} {events : List Event}
      {call : Hub.Call} {answer : call.Answer} (accounts : Accounts id hub given events)
      (plain : ∀ document task, call ≠ .section document task) :
      Accounts id hub (⟨call, answer⟩ :: given) events
  | opened {given : List ((call : Hub.Call) × call.Answer)} {events : List Event}
      {document : DocumentId} {task : Hub.Task}
      {result : Except (Operation.Failure Section.Error) (Option Bytes)}
      {told : Option (Operation.Ending (Option Bytes) Section.Error)}
      (accounts : Accounts id hub given events)
      (tells : Operation.Phase.Tells (.finished result) told) :
      Accounts id hub (⟨.section document task, result⟩ :: given)
        (recorded id hub document task told ++ events)

/-- How far a job has come with its work, and which sections of it have ended. -/
inductive Stage (path : List (Hubs S B Ask Answer × Move B Fault)) (hubs : Hubs S B Ask Answer)
    (id : JobId) (work : Hub.Handling) (job : Job Ask Answer) : Prop where
  | outside {given : List ((call : Hub.Call) × call.Answer)} (unopened : job.opened = none)
      (leads : work.Leads given job.rest)
      (accounts : Accounts id job.hub given (eventsBy id path)) : Stage path hubs id work job
  | inside {given : List ((call : Hub.Call) × call.Answer)} {settled : List Event}
      {operation : OperationId} {body : Section Ask Answer (Option Bytes)}
      {document : DocumentId} {task : Hub.Task}
      {next : Except (Operation.Failure Section.Error) (Option Bytes) → Hub.Handling}
      {entry : Site.Entry (Option Bytes) Section.Error}
      {told : Option (Operation.Ending (Option Bytes) Section.Error)}
      (isOpen : job.opened = some (operation, body))
      (rest : job.rest = .ask (.section document task) next) (leads : work.Leads given job.rest)
      (accounts : Accounts id job.hub given settled)
      (found : hubs.site.operations.get? operation = some entry)
      (tells : entry.operation.phase.Tells told)
      (events : eventsBy id path = recorded id job.hub document task told ++ settled) :
      Stage path hubs id work job

/-- Jobs come from moves, and sections that have ended from jobs. -/
structure Traced (path : List (Hubs S B Ask Answer × Move B Fault))
    (hubs : Hubs S B Ask Answer) : Prop where
  comes {begun : Hubs S B Ask Answer} {move : Move B Fault} {hub : HubId} {work : Hub.Handling}
    (member : (begun, move) ∈ path) (begins : move.begins? = some (hub, work)) :
    ∃ job, hubs.jobs.get? begun.nextJob = some job ∧ job.hub = hub ∧
      Stage path hubs begun.nextJob work job
  stems {id : JobId} (bound : id < hubs.nextJob) :
    ∃ begun move hub work, (begun, move) ∈ path ∧ move.begins? = some (hub, work) ∧
      begun.nextJob = id
  known {event : Event} (member : event ∈ events path) : event.job < hubs.nextJob

section

variable {hubs after : Hubs S B Ask Answer} {move : Move B Fault} {id : JobId}
  {path path' : List (Hubs S B Ask Answer × Move B Fault)} {work : Hub.Handling}
  {job : Job Ask Answer}

theorem eventsBy_silent (silent : hubs.ending? move = none) :
    eventsBy id ((hubs, move) :: path) = eventsBy id path := by
  simp only [eventsBy, events_cons, silent]

theorem eventsBy_other {event : Event} (ends : hubs.ending? move = some event)
    (apart : event.job ≠ id) : eventsBy id ((hubs, move) :: path) = eventsBy id path := by
  simp only [eventsBy, events_cons, ends]
  rw [List.filter_cons_of_neg (by simpa using apart)]

theorem eventsBy_same {event : Event} (ends : hubs.ending? move = some event)
    (same : event.job = id) :
    eventsBy id ((hubs, move) :: path) = event :: eventsBy id path := by
  simp only [eventsBy, events_cons, ends]
  rw [List.filter_cons_of_pos (by simpa using same)]

/-- A job goes by its work. -/
theorem Stage.leads (stage : Stage path hubs id work job) :
    ∃ given, work.Leads given job.rest := by
  cases stage with
  | outside unopened leads accounts => exact ⟨_, leads⟩
  | inside isOpen rest leads accounts found tells settles => exact ⟨_, leads⟩

/-- A job stays where it is while nothing happens to it or its section. -/
theorem Stage.transfer (stage : Stage path hubs id work job)
    (events : eventsBy id path' = eventsBy id path)
    (site : ∀ {operation body entry told}, job.opened = some (operation, body) →
      hubs.site.operations.get? operation = some entry → entry.operation.phase.Tells told →
      ∃ later, after.site.operations.get? operation = some later ∧
        later.operation.phase.Tells told) : Stage path' after id work job := by
  cases stage with
  | outside unopened leads accounts => exact .outside unopened leads (events ▸ accounts)
  | inside isOpen rest leads accounts found tells settles =>
      obtain ⟨later, laterFound, laterTells⟩ := site isOpen found tells
      exact .inside isOpen rest leads accounts laterFound laterTells (events.trans settles)

end

/-! ## Steps -/

section

variable [Lease.Store S] [Lease.Lawful S] [Medium B Fault Ask Answer]
  {archive : Archive Ask Answer} {keeping : archive.Keeping B Fault} {engine : Engine}
  {hubs after : Hubs S B Ask Answer} {move : Move B Fault} {id target : JobId}
  {path : List (Hubs S B Ask Answer × Move B Fault)} {work : Hub.Handling}
  {job changed : Job Ask Answer}

omit [Lease.Store S] [Lease.Lawful S] [Medium B Fault Ask Answer] in
/-- The job at which a step is aimed gets to another stage, all others stay. -/
theorem Stage.aimed (stage : Stage path hubs id work job) (found : hubs.jobs.get? id = some job)
    {before : Job Ask Answer} (beforeFound : hubs.jobs.get? target = some before)
    (jobs : ∀ other, after.jobs.get? other =
      if target = other then some changed else hubs.jobs.get? other)
    (silent : hubs.ending? move = none) (home : changed.hub = before.hub)
    (site : ∀ {operation body entry told}, job.opened = some (operation, body) →
      hubs.site.operations.get? operation = some entry → entry.operation.phase.Tells told →
      ∃ later, after.site.operations.get? operation = some later ∧
        later.operation.phase.Tells told)
    (here : Stage path hubs target work before →
      Stage ((hubs, move) :: path) after target work changed) :
    ∃ job', after.jobs.get? id = some job' ∧ job'.hub = job.hub ∧
      Stage ((hubs, move) :: path) after id work job' := by
  rw [jobs]
  split
  · next same =>
      cases same
      rw [found] at beforeFound
      cases beforeFound
      exact ⟨changed, rfl, home, here stage⟩
  · exact ⟨job, found, rfl, stage.transfer (eventsBy_silent silent) site⟩

omit [Lease.Store S] [Lease.Lawful S] [Medium B Fault Ask Answer] in
/-- A job without an open section is answered by a call that opens none. -/
theorem Stage.handed (stage : Stage path hubs id work job) {call : Hub.Call}
    {next : call.Answer → Hub.Handling} (rest : job.rest = .ask call next)
    (plain : ∀ document task, call ≠ .section document task)
    (silent : hubs.ending? move = none) (answer : call.Answer) :
    Stage ((hubs, move) :: path) after id work (job.handed (next answer)) := by
  cases stage with
  | outside unopened leads accounts =>
      rw [rest] at leads
      refine .outside rfl (leads.answered answer) ?_
      rw [eventsBy_silent silent]
      exact accounts.plain plain
  | inside isOpen rest' =>
      rw [rest] at rest'
      cases rest'
      exact absurd rfl (plain _ _)

omit [Lease.Store S] [Lease.Lawful S] [Medium B Fault Ask Answer] in
/-- A job is turned down that asks for a section. -/
theorem Stage.refused (stage : Stage path hubs id work job) {document : DocumentId}
    {task : Hub.Task} {resource : String}
    {next : Except (Operation.Failure Section.Error) (Option Bytes) → Hub.Handling}
    (rest : job.rest = .ask (.section document task) next) (unopened : job.opened = none)
    (silent : hubs.ending? move = none) :
    Stage ((hubs, move) :: path) after id work
      (job.handed (next (.error (.rejected resource)))) := by
  cases stage with
  | outside _ leads accounts =>
      rw [rest] at leads
      refine .outside rfl (leads.answered _) ?_
      rw [eventsBy_silent silent]
      refine accounts.opened (.failed ?_)
      intro resource cause
      simp
  | inside isOpen =>
      rw [unopened] at isOpen
      cases isOpen

omit [Lease.Lawful S] [Medium B Fault Ask Answer] in
/-- A job opens a section. -/
theorem Stage.opened (stage : Stage path hubs id work job) {service : ServiceId}
    {document : DocumentId} {task : Hub.Task} {body : Section Ask Answer (Option Bytes)}
    {next : Except (Operation.Failure Section.Error) (Option Bytes) → Hub.Handling}
    (rest : job.rest = .ask (.section document task) next) (unopened : job.opened = none)
    (accepted : hubs.site.isAccepting service = true)
    (site : after.site = hubs.site.after (.enter service (.document document) none))
    (silent : hubs.ending? move = none) :
    Stage ((hubs, move) :: path) after id work (job.within hubs.site.nextOperation body) := by
  cases stage with
  | outside _ leads accounts =>
      obtain ⟨settings, maxWait, entered⟩ := Site.get?_enter accepted (.document document) none
      rw [← site] at entered
      refine .inside rfl rest leads accounts entered .idle ?_
      rw [eventsBy_silent silent]
      rfl
  | inside isOpen =>
      rw [unopened] at isOpen
      cases isOpen

omit [Lease.Store S] [Lease.Lawful S] [Medium B Fault Ask Answer] in
/-- A job is answered inside its section. -/
theorem Stage.goesOn (stage : Stage path hubs id work job) {operation : OperationId}
    {body later : Section Ask Answer (Option Bytes)}
    (isOpen : job.opened = some (operation, body)) (site : after.site = hubs.site)
    (silent : hubs.ending? move = none) :
    Stage ((hubs, move) :: path) after id work (job.within operation later) := by
  cases stage with
  | outside unopened =>
      rw [unopened] at isOpen
      cases isOpen
  | inside isOpen' rest leads accounts found tells settles =>
      rw [isOpen] at isOpen'
      cases isOpen'
      refine .inside rfl rest leads accounts (site ▸ found) tells ?_
      rw [eventsBy_silent silent, settles]
      rfl

omit [Lease.Store S] [Lease.Lawful S] [Medium B Fault Ask Answer] in
/-- A job's section is over. -/
theorem Stage.closed (stage : Stage path hubs id work job) {operation : OperationId}
    {body : Section Ask Answer (Option Bytes)} {document : DocumentId} {task : Hub.Task}
    {next : Except (Operation.Failure Section.Error) (Option Bytes) → Hub.Handling}
    {result : Except (Operation.Failure Section.Error) (Option Bytes)}
    (rest : job.rest = .ask (.section document task) next)
    (isOpen : job.opened = some (operation, body)) (finished : hubs.site.result? operation = some result)
    (silent : hubs.ending? move = none) :
    Stage ((hubs, move) :: path) after id work (job.handed (next result)) := by
  cases stage with
  | outside unopened =>
      rw [unopened] at isOpen
      cases isOpen
  | inside isOpen' rest' leads accounts found tells settles =>
      rw [isOpen] at isOpen'
      cases isOpen'
      rw [rest] at rest' leads
      cases rest'
      simp only [Site.result?, Site.operation?, found, Option.map_some, Option.bind_some,
        Operation.result?] at finished
      split at finished
      · next told phase =>
          cases finished
          rw [phase] at tells
          refine .outside rfl (leads.answered result) ?_
          rw [eventsBy_silent silent, settles]
          exact accounts.opened tells
      · cases finished

omit [Lease.Lawful S] [Medium B Fault Ask Answer] in
/-- The body of a job's section has ended. -/
theorem Stage.ended (stage : Stage path hubs id work job) {operation : OperationId}
    {body : Section Ask Answer (Option Bytes)} {document : DocumentId} {task : Hub.Task}
    {next : Except (Operation.Failure Section.Error) (Option Bytes) → Hub.Handling}
    {ending : Operation.Ending (Option Bytes) Section.Error}
    (rest : job.rest = .ask (.section document task) next)
    (isOpen : job.opened = some (operation, body))
    (runs : hubs.site.need? operation = some .body)
    (site : after.site = hubs.site.after (.bodyEnded operation ending))
    (ends : hubs.ending? move = some ⟨id, job.hub, document, task, ending⟩) :
    Stage ((hubs, move) :: path) after id work job := by
  cases stage with
  | outside unopened =>
      rw [unopened] at isOpen
      cases isOpen
  | @inside given settled _ _ _ _ _ entry told isOpen' rest' leads accounts found tells settles =>
      rw [isOpen] at isOpen'
      cases isOpen'
      rw [rest] at rest'
      cases rest'
      rw [Site.need?_of_found found] at runs
      have running := Site.Entry.running_of_need? runs
      have later : after.site.operations.get? operation = some (entry.bodyEnded ending) := by
        rw [site, Site.after, Site.get?_bodyEnded, if_pos rfl, found, Option.map_some]
      refine .inside isOpen rest leads accounts later
        (Site.Entry.tells_bodyEnded running ending) ?_
      rw [eventsBy_same ends rfl, settles, Site.Entry.tells_of_running running tells]
      rfl

/-- Every permitted move takes a job from one stage to the next. -/
theorem Stage.step (stage : Stage path hubs id work job) (found : hubs.jobs.get? id = some job)
    (orderly : hubs.Orderly archive engine) (exclusive : hubs.site.Exclusive)
    (effect : hubs.Effect move after) :
    ∃ job', after.jobs.get? id = some job' ∧ job'.hub = job.hub ∧
      Stage ((hubs, move) :: path) after id work job' := by
  have same : after.site = hubs.site →
      ∀ {operation : OperationId} {body : Section Ask Answer (Option Bytes)} {entry told},
        job.opened = some (operation, body) →
        hubs.site.operations.get? operation = some entry → entry.operation.phase.Tells told →
        ∃ later, after.site.operations.get? operation = some later ∧
          later.operation.phase.Tells told := by
    intro site operation body entry told _ entryFound tells
    rw [site]
    exact ⟨entry, entryFound, tells⟩
  have calm : ∀ siteMove, after.site = hubs.site.after siteMove →
      (∀ {operation body}, job.opened = some (operation, body) →
        ∀ ending, siteMove ≠ .bodyEnded operation ending) →
      ∀ {operation : OperationId} {body : Section Ask Answer (Option Bytes)} {entry told},
        job.opened = some (operation, body) →
        hubs.site.operations.get? operation = some entry → entry.operation.phase.Tells told →
        ∃ later, after.site.operations.get? operation = some later ∧
          later.operation.phase.Tells told := by
    intro siteMove site goesOn operation body entry told isOpen entryFound tells
    rw [site]
    exact exclusive.tells (Site.effect_after siteMove) entryFound tells (goesOn isOpen)
  cases effect with
  | quiet idle silent beside site medium core jobs =>
      exact ⟨job, jobs ▸ found, rfl, stage.transfer (eventsBy_silent silent) (same site)⟩
  | begun begins archive next site medium core jobs silent =>
      refine ⟨job, ?_, rfl, stage.transfer (eventsBy_silent silent) (same site)⟩
      rw [jobs, Table.get?_insert, if_neg (Nat.ne_of_gt (orderly.numbered found)), found]
  | drifted beside site medium core jobs =>
      exact ⟨job, jobs ▸ found, rfl, stage.transfer (eventsBy_silent rfl) (same site)⟩
  | locked idle silent aim isOpen kind beside site medium core jobs =>
      refine ⟨job, jobs ▸ found, rfl, stage.transfer (eventsBy_silent silent) (calm _ site ?_)⟩
      intro operation body _ ending
      rcases kind with ⟨moment, rfl, -⟩ | ⟨failure, now, rfl, -⟩
      · simp
      · simp
  | replied aim rest plain beside site medium core jobs silent =>
      refine stage.aimed found aim jobs silent rfl (same site) ?_
      intro stage
      exact stage.handed rest plain silent _
  | refused aim rest unopened beside site medium core jobs silent =>
      refine stage.aimed found aim jobs silent rfl (same site) ?_
      intro stage
      exact stage.refused rest unopened silent
  | opened aim hubFound rest unopened beside accepted site medium core jobs silent =>
      refine stage.aimed found aim jobs silent rfl (calm _ site (by simp)) ?_
      intro stage
      exact stage.opened rest unopened accepted site silent
  | asked aim hubFound isOpen runs beside site medium table jobs silent =>
      refine stage.aimed found aim jobs silent rfl (same site) ?_
      intro stage
      exact stage.goesOn isOpen site silent
  | consulted aim isOpen beside site medium core jobs =>
      refine stage.aimed found aim jobs rfl rfl (same site) ?_
      intro stage
      exact stage.goesOn isOpen site rfl
  | closed aim rest isOpen finished beside site medium core jobs silent =>
      refine stage.aimed found aim jobs silent rfl (same site) ?_
      intro stage
      exact stage.closed rest isOpen finished silent
  | @ended _ target moment _ _ _ _ _ _ aim hubFound rest isOpen runs beside site medium core jobs =>
      obtain ⟨document, task, next, entry, asks, -⟩ := orderly.opens aim isOpen
      have ends : hubs.ending? (.step target moment : Move B Fault) = some ⟨target, _, _, _, _⟩ :=
        ending?_of_done aim hubFound asks isOpen runs moment
      refine ⟨job, jobs ▸ found, rfl, ?_⟩
      by_cases same : target = id
      · cases same
        rw [aim] at found
        cases found
        exact stage.ended asks isOpen runs site ends
      · refine stage.transfer (eventsBy_other ends same) (calm _ site ?_)
        rintro operation body isOpen' ending equal
        cases equal
        exact same (orderly.apart aim isOpen found isOpen')

omit [Lease.Lawful S] in
/-- Jobs are numbered as they begin. -/
theorem nextJob_of_effect (effect : hubs.Effect move after) :
    (move.begins? = none ∧ after.nextJob = hubs.nextJob) ∨
      ∃ hub work, move.begins? = some (hub, work) ∧ after.nextJob = hubs.nextJob + 1 ∧
        after.jobs.get? hubs.nextJob = some ⟨hub, work, none⟩ := by
  cases effect with
  | begun begins archive next site medium core jobs =>
      refine .inr ⟨_, _, begins, next, ?_⟩
      rw [jobs]
      exact Table.get?_insert_self ..
  | quiet idle _ beside => exact .inl ⟨idle, beside.next⟩
  | locked idle _ _ _ _ beside => exact .inl ⟨idle, beside.next⟩
  | replied _ _ _ beside => exact .inl ⟨rfl, beside.next⟩
  | refused _ _ _ beside => exact .inl ⟨rfl, beside.next⟩
  | opened _ _ _ _ beside => exact .inl ⟨rfl, beside.next⟩
  | ended _ _ _ _ _ beside => exact .inl ⟨rfl, beside.next⟩
  | asked _ _ _ _ beside => exact .inl ⟨rfl, beside.next⟩
  | consulted _ _ beside => exact .inl ⟨rfl, beside.next⟩
  | closed _ _ _ _ beside => exact .inl ⟨rfl, beside.next⟩
  | drifted beside => exact .inl ⟨rfl, beside.next⟩

omit [Lease.Store S] [Lease.Lawful S] [Medium B Fault Ask Answer] in
theorem job_of_ending? {event : Event} (ends : hubs.ending? move = some event) :
    ∃ job, hubs.jobs.get? event.job = some job := by
  cases move with
  | step id moment =>
      unfold ending? at ends
      simp only at ends
      split at ends
      · next found =>
          split at ends
          · cases ends
            exact ⟨_, found⟩
          · cases ends
      · cases ends
  | _ => cases ends

namespace Traced

theorem step (traced : Traced path hubs) (orderly : hubs.Orderly archive engine)
    (exclusive : hubs.site.Exclusive) (effect : hubs.Effect move after) :
    Traced ((hubs, move) :: path) after := by
  have numbers := nextJob_of_effect effect
  have grows : hubs.nextJob ≤ after.nextJob := by
    rcases numbers with ⟨-, next⟩ | ⟨hub, work, -, next, -⟩
    · exact Nat.le_of_eq next.symm
    · exact next ▸ Nat.le_succ _
  constructor
  · intro begun move' hub work member begins
    rcases List.mem_cons.mp member with equal | member
    · cases equal
      rcases numbers with ⟨idle, -⟩ | ⟨hub', work', begins', -, found⟩
      · rw [idle] at begins
        cases begins
      · rw [begins] at begins'
        cases begins'
        refine ⟨_, found, rfl, .outside rfl .start ?_⟩
        have none : eventsBy hubs.nextJob ((hubs, move) :: path) = [] := by
          have fresh : ∀ event ∈ events path, event.job ≠ hubs.nextJob := by
            intro event member
            exact Nat.ne_of_lt (traced.known member)
          have silent : hubs.ending? move = none := by
            cases move with
            | step id moment => cases begins
            | _ => rfl
          rw [eventsBy_silent silent]
          exact List.filter_eq_nil_iff.mpr (by simpa using fresh)
        rw [none]
        exact .start
    · obtain ⟨job, found, rfl, stage⟩ := traced.comes member begins
      exact stage.step found orderly exclusive effect
  · intro id bound
    by_cases old : id < hubs.nextJob
    · obtain ⟨begun, move', hub, work, member, begins, number⟩ := traced.stems old
      exact ⟨begun, move', hub, work, List.mem_cons_of_mem _ member, begins, number⟩
    · rcases numbers with ⟨-, next⟩ | ⟨hub, work, begins, next, -⟩
      · exact absurd (next ▸ bound) old
      · refine ⟨hubs, move, hub, work, List.mem_cons_self .., begins, ?_⟩
        rw [next] at bound
        exact Nat.le_antisymm (Nat.le_of_not_lt old) (Nat.le_of_lt_succ bound)
  · intro event member
    rw [events_cons] at member
    cases ends : hubs.ending? move with
    | none =>
        rw [ends] at member
        exact Nat.lt_of_lt_of_le (traced.known member) grows
    | some last =>
        rw [ends] at member
        rcases List.mem_cons.mp member with rfl | member
        · obtain ⟨job, found⟩ := job_of_ending? ends
          exact Nat.lt_of_lt_of_le (orderly.numbered found) grows
        · exact Nat.lt_of_lt_of_le (traced.known member) grows

end Traced

/-- Jobs are traced on every course. -/
theorem Course.traced {first : DocumentId → keeping.Place} {start : Hubs S B Ask Answer}
    (course : Course keeping start path hubs) (starts : start.Starts keeping engine first) :
    Traced path hubs := by
  induction course with
  | start =>
      constructor
      · intro begun move hub work member
        cases member
      · intro id bound
        rw [starts.next] at bound
        exact absurd bound (Nat.not_lt_zero _)
      · intro event member
        cases member
  | move course permitted effect ih =>
      exact ih.step (course.orderly starts) (course.exclusive starts) effect

theorem Run.traced {first : DocumentId → keeping.Place} {start : Hubs S B Ask Answer}
    (run : Run keeping start path hubs) (starts : start.Starts keeping engine first) :
    Traced path hubs :=
  run.course.traced starts

end

end Hubs

end Coedit
