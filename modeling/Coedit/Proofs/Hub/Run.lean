import Coedit.Proofs.Hub.Cache
import Coedit.Proofs.Site.Run

/-!
# Runs of hubs

Any order of the steps of hubs that share a lease store and an archive: sessions join
and leave, frames come in, and each job goes on step by step, between which others go
on.  As with sites, nobody is cut off half-way, tokens are not used twice, and no lease
runs out while it is needed.
-/

namespace Coedit

/-- The job once its section has come so far. -/
def Job.within {Ask : Type} {Answer : Ask → Type} (job : Job Ask Answer)
    (operation : OperationId) (body : Section Ask Answer (Option Bytes)) : Job Ask Answer :=
  { job with opened := some (operation, body) }

/-- The job once it has been answered, without a section. -/
def Job.handed {Ask : Type} {Answer : Ask → Type} (job : Job Ask Answer)
    (rest : Hub.Handling) : Job Ask Answer :=
  { job with rest := rest, opened := none }

namespace Hubs

variable {S B Fault Ask : Type} {Answer : Ask → Type}

/-! ## Moves -/

/-- What can happen at hubs. -/
inductive Move (B Fault : Type) where
  | join (hub : HubId) (document : DocumentId)
  /-- A session takes out what is in its outbox. -/
  | receive (hub : HubId) (session : SessionId)
  /-- A session takes no more frames. -/
  | close (hub : HubId) (session : SessionId)
  /-- A frame comes in. -/
  | frame (hub : HubId) (document : DocumentId) (session : SessionId) (bytes : Bytes)
  | leave (hub : HubId) (document : DocumentId) (session : SessionId)
  /-- A job goes on that waits for nothing. -/
  | step (job : JobId) (moment : Lock.Moment)
  /-- The call to the lease store that a job needs takes effect, or fails without
  effect. -/
  | perform (job : JobId) (failure : Option StoreError) (now : Instant)
  /-- The answer to that call arrives, or a pause is over. -/
  | resume (job : JobId) (moment : Lock.Moment)
  /-- The operation of the archive that a job needs takes effect, or fails without
  effect. -/
  | consult (job : JobId) (failure : Option Fault)
  /-- The medium of the archive changes by itself. -/
  | drift (medium : B)

/-- Change the roster of a hub. -/
def modifyRoster (hubs : Hubs S B Ask Answer) (id : HubId) (change : Roster → Roster) :
    Hubs S B Ask Answer :=
  match hubs.hubs.get? id with
  | none => hubs
  | some hub => hubs.setHub id { hub with roster := change hub.roster }

/-- The hub at which a move begins a job, and what the job has to do. -/
def Move.begins? : Move B Fault → Option (HubId × Hub.Handling)
  | .frame hub document session bytes => some (hub, Hub.handleBytes document session bytes)
  | .leave hub document session => some (hub, Hub.dismiss document session)
  | _ => none

/-- The hubs after a move. -/
def after [Lease.Store S] [Medium B Fault Ask Answer] (hubs : Hubs S B Ask Answer) :
    Move B Fault → Hubs S B Ask Answer
  | .join hub document => (hubs.join hub document).2
  | .receive hub session => hubs.modifyRoster hub fun roster => (roster.receive session).2
  | .close hub session => hubs.modifyRoster hub (·.modifyOutbox session .close)
  | .frame hub document session bytes =>
      (hubs.begin hub (Hub.handleBytes document session bytes)).2
  | .leave hub document session => (hubs.begin hub (Hub.dismiss document session)).2
  | .step job moment => hubs.step job moment
  | .perform job failure now => hubs.performCall job failure now
  | .resume job moment => hubs.resume job moment
  | .consult job failure => hubs.consult job failure
  | .drift medium => { hubs with medium := medium }

/-! ## Sections that end -/

/-- A section whose body has ended. -/
structure Event where
  job : JobId
  hub : HubId
  document : DocumentId
  task : Hub.Task
  ending : Operation.Ending (Option Bytes) Section.Error

/-- The section whose body ends with a move. -/
def ending? (hubs : Hubs S B Ask Answer) : Move B Fault → Option Event
  | .step id _ =>
      match hubs.jobs.get? id with
      | some ⟨hub, .ask (.section document task) _, some (operation, .done ending)⟩ =>
          if hubs.site.need? operation = some .body ∧ hubs.hubs.contains hub then
            some ⟨id, hub, document, task, ending⟩
          else none
      | _ => none
  | _ => none

/-- The sections that have ended on a path, latest first. -/
def events (path : List (Hubs S B Ask Answer × Move B Fault)) : List Event :=
  path.filterMap fun at' => at'.1.ending? at'.2

/-- The sections of a document that have ended on a path, latest first. -/
def eventsOf (document : DocumentId) (path : List (Hubs S B Ask Answer × Move B Fault)) :
    List Event :=
  (events path).filter fun event => event.document = document

/-! ## What a move does -/

/-- A hub without its roster, which sections neither read nor change. -/
def core (hubs : Hubs S B Ask Answer) (id : HubId) : Option (ServiceId × Engine × Cache) :=
  (hubs.hubs.get? id).map fun hub => (hub.service, hub.engine, hub.cache)

/-- What is left as it is by a move that goes by the parts `Effect` does not name. -/
structure Beside (hubs after : Hubs S B Ask Answer) : Prop where
  archive : after.archive = hubs.archive
  next : after.nextJob = hubs.nextJob

/-- What a move does to hubs. -/
inductive Effect [Lease.Store S] [Medium B Fault Ask Answer] (hubs : Hubs S B Ask Answer) :
    Move B Fault → Hubs S B Ask Answer → Prop where
  /-- Nothing changes but rosters. -/
  | quiet {move : Move B Fault} {after : Hubs S B Ask Answer} (idle : move.begins? = none)
      (silent : hubs.ending? move = none)
      (beside : Beside hubs after) (site : after.site = hubs.site)
      (medium : after.medium = hubs.medium) (core : ∀ id, after.core id = hubs.core id)
      (jobs : after.jobs = hubs.jobs) : Effect hubs move after
  | begun {move : Move B Fault} {after : Hubs S B Ask Answer} {hub : HubId}
      {work : Hub.Handling} (begins : move.begins? = some (hub, work))
      (archive : after.archive = hubs.archive) (next : after.nextJob = hubs.nextJob + 1)
      (site : after.site = hubs.site) (medium : after.medium = hubs.medium)
      (core : ∀ id, after.core id = hubs.core id)
      (jobs : after.jobs = hubs.jobs.insert hubs.nextJob ⟨hub, work, none⟩)
      (silent : hubs.ending? move = none) :
      Effect hubs move after
  /-- A call of a job that is not for a section is answered. -/
  | replied {after : Hubs S B Ask Answer} {id : JobId} {moment : Lock.Moment}
      {job : Job Ask Answer} {call : Hub.Call} {next : call.Answer → Hub.Handling}
      {answer : call.Answer} (found : hubs.jobs.get? id = some job)
      (rest : job.rest = .ask call next) (plain : ∀ document task, call ≠ .section document task)
      (beside : Beside hubs after) (site : after.site = hubs.site)
      (medium : after.medium = hubs.medium) (core : ∀ id, after.core id = hubs.core id)
      (jobs : ∀ other, after.jobs.get? other =
        if id = other then some (job.handed (next answer)) else hubs.jobs.get? other)
      (silent : hubs.ending? (.step id moment : Move B Fault) = none) :
      Effect hubs (.step id moment) after
  /-- A job is turned down that asks for a section. -/
  | refused {after : Hubs S B Ask Answer} {id : JobId} {moment : Lock.Moment}
      {job : Job Ask Answer} {document : DocumentId} {task : Hub.Task} {resource : String}
      {next : Except (Operation.Failure Section.Error) (Option Bytes) → Hub.Handling}
      (found : hubs.jobs.get? id = some job)
      (rest : job.rest = .ask (.section document task) next) (unopened : job.opened = none)
      (beside : Beside hubs after) (site : after.site = hubs.site)
      (medium : after.medium = hubs.medium) (core : ∀ id, after.core id = hubs.core id)
      (jobs : ∀ other, after.jobs.get? other =
        if id = other then some (job.handed (next (.error (.rejected resource))))
        else hubs.jobs.get? other)
      (silent : hubs.ending? (.step id moment : Move B Fault) = none) :
      Effect hubs (.step id moment) after
  | opened {after : Hubs S B Ask Answer} {id : JobId} {moment : Lock.Moment}
      {job : Job Ask Answer} {hub : Hub} {document : DocumentId} {task : Hub.Task}
      {next : Except (Operation.Failure Section.Error) (Option Bytes) → Hub.Handling}
      (found : hubs.jobs.get? id = some job) (hubFound : hubs.hubs.get? job.hub = some hub)
      (rest : job.rest = .ask (.section document task) next) (unopened : job.opened = none)
      (beside : Beside hubs after)
      (accepted : hubs.site.isAccepting hub.service = true)
      (site : after.site = hubs.site.after (.enter hub.service (.document document) none))
      (medium : after.medium = hubs.medium) (core : ∀ id, after.core id = hubs.core id)
      (jobs : ∀ other, after.jobs.get? other =
        if id = other then
          some (job.within hubs.site.nextOperation
            (body hubs.archive hub.engine document task))
        else hubs.jobs.get? other)
      (silent : hubs.ending? (.step id moment : Move B Fault) = none) :
      Effect hubs (.step id moment) after
  /-- The operation of an open section gets on with its lock. -/
  | locked {move : Move B Fault} {after : Hubs S B Ask Answer} {id : JobId}
      {job : Job Ask Answer} {operation : OperationId}
      {body : Section Ask Answer (Option Bytes)} {siteMove : Site.Move (Option Bytes) Section.Error}
      (idle : move.begins? = none) (silent : hubs.ending? move = none)
      (found : hubs.jobs.get? id = some job) (isOpen : job.opened = some (operation, body))
      (kind : (∃ moment, siteMove = .resume operation moment ∧
          (move = .resume id moment ∨ move = .step id moment)) ∨
        ∃ failure now, siteMove = .perform operation failure now ∧ move = .perform id failure now)
      (beside : Beside hubs after) (site : after.site = hubs.site.after siteMove)
      (medium : after.medium = hubs.medium) (core : ∀ id, after.core id = hubs.core id)
      (jobs : after.jobs = hubs.jobs) : Effect hubs move after
  /-- The body of a section has ended. -/
  | ended {after : Hubs S B Ask Answer} {id : JobId} {moment : Lock.Moment}
      {job : Job Ask Answer} {hub : Hub} {operation : OperationId}
      {ending : Operation.Ending (Option Bytes) Section.Error} {call : Hub.Call}
      {next : call.Answer → Hub.Handling}
      (found : hubs.jobs.get? id = some job) (hubFound : hubs.hubs.get? job.hub = some hub)
      (rest : job.rest = .ask call next) (isOpen : job.opened = some (operation, .done ending))
      (runs : hubs.site.need? operation = some .body)
      (beside : Beside hubs after)
      (site : after.site = hubs.site.after (.bodyEnded operation ending))
      (medium : after.medium = hubs.medium) (core : ∀ id, after.core id = hubs.core id)
      (jobs : after.jobs = hubs.jobs) : Effect hubs (.step id moment) after
  /-- The hub answers a call of a section. -/
  | asked {after : Hubs S B Ask Answer} {id : JobId} {moment : Lock.Moment}
      {job : Job Ask Answer} {hub : Hub} {operation : OperationId} {call : Section.Call}
      {next : call.Answer → Section Ask Answer (Option Bytes)}
      (found : hubs.jobs.get? id = some job) (hubFound : hubs.hubs.get? job.hub = some hub)
      (isOpen : job.opened = some (operation, .ask (.inl call) next))
      (runs : hubs.site.need? operation = some .body)
      (beside : Beside hubs after) (site : after.site = hubs.site)
      (medium : after.medium = hubs.medium)
      (table : after.hubs =
        hubs.hubs.insert job.hub (hub.answer (moment.clock 0) call).2)
      (jobs : ∀ other, after.jobs.get? other =
        if id = other then
          some (job.within operation (next (hub.answer (moment.clock 0) call).1))
        else hubs.jobs.get? other)
      (silent : hubs.ending? (.step id moment : Move B Fault) = none) :
      Effect hubs (.step id moment) after
  /-- The archive answers a question of a section. -/
  | consulted {after : Hubs S B Ask Answer} {id : JobId} {failure : Option Fault}
      {job : Job Ask Answer} {operation : OperationId} {question : Ask}
      {next : Answer question → Section Ask Answer (Option Bytes)}
      (found : hubs.jobs.get? id = some job)
      (isOpen : job.opened = some (operation, .ask (.inr question) next))
      (beside : Beside hubs after) (site : after.site = hubs.site)
      (medium : after.medium = (Medium.attempt failure question hubs.medium).2)
      (core : ∀ id, after.core id = hubs.core id)
      (jobs : ∀ other, after.jobs.get? other =
        if id = other then
          some (job.within operation
            (next (Medium.attempt failure question hubs.medium).1))
        else hubs.jobs.get? other) :
      Effect hubs (.consult id failure) after
  /-- A section is over and has a result. -/
  | closed {after : Hubs S B Ask Answer} {id : JobId} {moment : Lock.Moment}
      {job : Job Ask Answer} {operation : OperationId}
      {body : Section Ask Answer (Option Bytes)} {document : DocumentId} {task : Hub.Task}
      {next : Except (Operation.Failure Section.Error) (Option Bytes) → Hub.Handling}
      {result : Except (Operation.Failure Section.Error) (Option Bytes)}
      (found : hubs.jobs.get? id = some job)
      (rest : job.rest = .ask (.section document task) next)
      (isOpen : job.opened = some (operation, body))
      (finished : hubs.site.result? operation = some result)
      (beside : Beside hubs after) (site : after.site = hubs.site)
      (medium : after.medium = hubs.medium) (core : ∀ id, after.core id = hubs.core id)
      (jobs : ∀ other, after.jobs.get? other =
        if id = other then some (job.handed (next result)) else hubs.jobs.get? other)
      (silent : hubs.ending? (.step id moment : Move B Fault) = none) :
      Effect hubs (.step id moment) after
  | drifted {fresh : B} {after : Hubs S B Ask Answer} (beside : Beside hubs after)
      (site : after.site = hubs.site) (medium : after.medium = fresh)
      (core : ∀ id, after.core id = hubs.core id) (jobs : after.jobs = hubs.jobs) :
      Effect hubs (.drift fresh) after

section

variable {hubs : Hubs S B Ask Answer}

theorem get?_setJob (id other : JobId) (job : Job Ask Answer) :
    (hubs.setJob id job).jobs.get? other =
      if id = other then some job else hubs.jobs.get? other :=
  Table.get?_insert ..

theorem core_of_hub {id : HubId} {hub : Hub} (found : hubs.hubs.get? id = some hub) :
    hubs.core id = some (hub.service, hub.engine, hub.cache) := by
  rw [core, found]
  rfl

theorem core_setHub {id : HubId} {hub changed : Hub} (found : hubs.hubs.get? id = some hub)
    (service : changed.service = hub.service) (engine : changed.engine = hub.engine)
    (cache : changed.cache = hub.cache) (other : HubId) :
    (hubs.setHub id changed).core other = hubs.core other := by
  unfold core setHub
  rw [Table.get?_insert]
  split
  · next same =>
      rw [← same, found]
      simp [service, engine, cache]
  · rfl

theorem effect_modifyRoster [Lease.Store S] [Medium B Fault Ask Answer] {move : Move B Fault}
    (idle : move.begins? = none) (silent : hubs.ending? move = none) (id : HubId)
    (change : Roster → Roster) :
    hubs.Effect move (hubs.modifyRoster id change) := by
  unfold modifyRoster
  split
  · exact .quiet idle silent ⟨rfl, rfl⟩ rfl rfl (fun _ => rfl) rfl
  · next hub found =>
      exact .quiet idle silent ⟨rfl, rfl⟩ rfl rfl (core_setHub found rfl rfl rfl) rfl

/-- Nothing ends with a step of a job that is not there, that has no section open, or
whose section has not come to its end. -/
theorem ending?_step_eq_none {id : JobId} {moment : Lock.Moment}
    (going : ∀ job call next operation ending, hubs.jobs.get? id = some job →
      job.rest = .ask call next → job.opened = some (operation, .done ending) →
      hubs.site.need? operation = some .body → hubs.hubs.get? job.hub = none) :
    hubs.ending? (.step id moment : Move B Fault) = none := by
  unfold ending?
  simp only
  split
  · next hub document task next operation ending found =>
      rw [if_neg]
      rintro ⟨body, present⟩
      have absent := going _ _ _ operation ending found rfl rfl body
      simp only at absent
      simp [Table.contains, absent] at present
  · rfl

/-- A call that a job makes without a section. -/
theorem effect_answer [Lease.Store S] [Medium B Fault Ask Answer] {id : JobId}
    {job : Job Ask Answer} {hub : Hub} {call : Hub.Call} {next : call.Answer → Hub.Handling}
    (found : hubs.jobs.get? id = some job) (hubFound : hubs.hubs.get? job.hub = some hub)
    (rest : job.rest = .ask call next) (unopened : job.opened = none) (moment : Lock.Moment) :
    hubs.Effect (.step id moment : Move B Fault) (hubs.answer id job hub call next) := by
  have handed : ∀ rest, { job with rest := rest } = job.handed rest := by
    intro rest
    simp [Job.handed, unopened]
  have silent : hubs.ending? (.step id moment : Move B Fault) = none := by
    apply ending?_step_eq_none
    intro job' call' next' operation ending found' rest' isOpen
    rw [found] at found'
    cases found'
    rw [unopened] at isOpen
    cases isOpen
  cases call with
  | «section» document task =>
      cases accepting : hubs.site.isAccepting hub.service with
      | true =>
          simp only [answer, Site.enter, accepting, if_true]
          refine .opened found hubFound rest unopened ⟨rfl, rfl⟩ accepting ?_ rfl (fun _ => rfl)
            (get?_setJob id · _) silent
          simp only [Site.after, Site.enter, accepting, if_true]
          rfl
      | false =>
          simp only [answer, Site.enter, accepting, Bool.false_eq_true, if_false, handed]
          exact .refused found rest unopened ⟨rfl, rfl⟩ rfl rfl (fun _ => rfl)
            (get?_setJob id · _) silent
  | broadcast document sender frame =>
      simp only [answer, handed]
      exact .replied found rest (by simp) ⟨rfl, rfl⟩ rfl rfl
        (core_setHub hubFound rfl rfl rfl) (get?_setJob id · _) silent
  | announce document session payload =>
      simp only [answer, handed]
      exact .replied found rest (by simp) ⟨rfl, rfl⟩ rfl rfl
        (core_setHub hubFound rfl rfl rfl) (get?_setJob id · _) silent
  | presences document =>
      simp only [answer, handed]
      exact .replied found rest (by simp) ⟨rfl, rfl⟩ rfl rfl (fun _ => rfl) (get?_setJob id · _)
        silent
  | depart document session =>
      simp only [answer, handed]
      exact .replied found rest (by simp) ⟨rfl, rfl⟩ rfl rfl
        (core_setHub hubFound rfl rfl rfl) (get?_setJob id · _) silent
  | isLoaded document =>
      simp only [answer, handed]
      exact .replied found rest (by simp) ⟨rfl, rfl⟩ rfl rfl (fun _ => rfl) (get?_setJob id · _)
        silent

/-- A job goes on whose section is open. -/
theorem effect_stepSection [Lease.Store S] [Medium B Fault Ask Answer] {id : JobId}
    {job : Job Ask Answer} {hub : Hub} {call : Hub.Call} {next : call.Answer → Hub.Handling}
    {operation : OperationId} {body : Section Ask Answer (Option Bytes)}
    (found : hubs.jobs.get? id = some job) (hubFound : hubs.hubs.get? job.hub = some hub)
    (rest : job.rest = .ask call next) (isOpen : job.opened = some (operation, body))
    (moment : Lock.Moment) :
    hubs.Effect (.step id moment : Move B Fault)
      (hubs.stepSection id job hub operation body moment) := by
  have silent : (∀ ending, body = .done ending → hubs.site.need? operation ≠ some .body) →
      hubs.ending? (.step id moment : Move B Fault) = none := by
    intro going
    apply ending?_step_eq_none
    intro job' call' next' operation' ending found' rest' isOpen' runs
    rw [found] at found'
    cases found'
    rw [isOpen] at isOpen'
    cases isOpen'
    exact absurd runs (going ending rfl)
  have nothing : (∀ ending, body = .done ending → hubs.site.need? operation ≠ some .body) →
      hubs.Effect (.step id moment : Move B Fault) hubs :=
    fun going => .quiet rfl (silent going) ⟨rfl, rfl⟩ rfl rfl (fun _ => rfl) rfl
  unfold stepSection
  split
  · next start =>
      exact .locked rfl (silent (by simp [start])) found isOpen (.inl ⟨moment, rfl, .inr rfl⟩)
        ⟨rfl, rfl⟩ rfl rfl (fun _ => rfl) rfl
  · next runs =>
      split
      · exact .ended found hubFound rest isOpen runs ⟨rfl, rfl⟩ rfl rfl (fun _ => rfl) rfl
      · exact .asked found hubFound isOpen runs ⟨rfl, rfl⟩ rfl rfl rfl (get?_setJob id · _)
          (silent (by simp))
      · exact nothing (by simp)
  · next locked => exact nothing (by simp [locked])
  · next finished =>
      split
      · next result asks =>
          exact .closed found asks isOpen result ⟨rfl, rfl⟩ rfl rfl (fun _ => rfl)
            (get?_setJob id · _) (silent (by simp [finished]))
      · exact nothing (by simp [finished])

/-- Every move has one of these effects. -/
theorem effect_after [Lease.Store S] [Medium B Fault Ask Answer] (move : Move B Fault) :
    hubs.Effect move (hubs.after move) := by
  have nothing : ∀ move : Move B Fault, move.begins? = none → hubs.ending? move = none →
      hubs.Effect move hubs :=
    fun move idle silent => .quiet idle silent ⟨rfl, rfl⟩ rfl rfl (fun _ => rfl) rfl
  cases move with
  | join id document =>
      simp only [after, join]
      split
      · exact nothing _ rfl rfl
      · next hub found =>
          exact .quiet rfl rfl ⟨rfl, rfl⟩ rfl rfl (core_setHub found rfl rfl rfl) rfl
  | receive id session =>
      simp only [after]
      apply effect_modifyRoster
      · rfl
      · rfl
  | close id session =>
      simp only [after]
      apply effect_modifyRoster
      · rfl
      · rfl
  | frame hub document session bytes =>
      exact .begun rfl rfl rfl rfl rfl (fun _ => rfl) rfl rfl
  | leave hub document session => exact .begun rfl rfl rfl rfl rfl (fun _ => rfl) rfl rfl
  | step id moment =>
      simp only [after, step]
      split
      · next absent => exact nothing _ rfl (ending?_step_eq_none (by simp [absent]))
      · next job found =>
          split
          · next hubFound rest unopened => exact effect_answer found hubFound rest unopened moment
          · next hubFound rest isOpen =>
              exact effect_stepSection found hubFound rest isOpen moment
          · next noAnswer noSection =>
              refine nothing _ rfl (ending?_step_eq_none ?_)
              intro job' call next operation ending found' rest isOpen runs
              rw [found] at found'
              cases found'
              cases present : hubs.hubs.get? job.hub with
              | none => rfl
              | some hub => exact absurd isOpen (noSection hub call next _ _ present rest)
  | perform id failure now =>
      simp only [after, performCall, operation?]
      cases found : hubs.jobs.get? id with
      | none => exact nothing _ rfl rfl
      | some job =>
          cases isOpen : job.opened with
          | none =>
              simp only [Option.bind_some, isOpen, Option.map_none]
              exact nothing _ rfl rfl
          | some held =>
              simp only [Option.bind_some, isOpen, Option.map_some]
              exact .locked rfl rfl found isOpen (.inr ⟨failure, now, rfl, rfl⟩) ⟨rfl, rfl⟩ rfl
                rfl (fun _ => rfl) rfl
  | resume id moment =>
      simp only [after, resume, operation?]
      cases found : hubs.jobs.get? id with
      | none => exact nothing _ rfl rfl
      | some job =>
          cases isOpen : job.opened with
          | none =>
              simp only [Option.bind_some, isOpen, Option.map_none]
              exact nothing _ rfl rfl
          | some held =>
              simp only [Option.bind_some, isOpen, Option.map_some]
              exact .locked rfl rfl found isOpen (.inl ⟨moment, rfl, .inl rfl⟩) ⟨rfl, rfl⟩ rfl rfl
                (fun _ => rfl) rfl
  | consult id failure =>
      simp only [after, consult]
      split
      · next job found =>
          split
          · next isOpen =>
              exact .consulted found isOpen ⟨rfl, rfl⟩ rfl rfl (fun _ => rfl) (get?_setJob id · _)
          · exact nothing _ rfl rfl
      · exact nothing _ rfl rfl
  | drift medium => exact .drifted ⟨rfl, rfl⟩ rfl rfl (fun _ => rfl) rfl

end

/-! ## Runs -/

/-- What a job wants to know from the archive. -/
def question? (hubs : Hubs S B Ask Answer) (id : JobId) : Option Ask :=
  match hubs.jobs.get? id with
  | some ⟨_, _, some (_, .ask (.inr question) _)⟩ => some question
  | _ => none

section

variable [Lease.Store S] [Lease.Lawful S] [Medium B Fault Ask Answer]
  {archive : Archive Ask Answer}

/-- What the surroundings promise about a move: tokens are new, the lease of a held key
lasts, and the archive is asked what a job wants to know, on a medium that fails and
drifts as it may. -/
def Permits (keeping : archive.Keeping B Fault) (hubs : Hubs S B Ask Answer) :
    Move B Fault → Prop
  | .step _ moment => hubs.site.IsFresh moment.token
  | .perform _ _ now => hubs.site.Lasts now
  | .resume _ moment => hubs.site.IsFresh moment.token
  | .consult id failure =>
      hubs.need? id = some .archive ∧
        ∀ question ∈ hubs.question? id, ∀ fault ∈ failure, keeping.Happens question fault
  | .drift medium => keeping.Drifts hubs.medium medium
  | _ => True

/-- The runs from some hubs, each with the moves it took and the hubs it took them at,
latest first. -/
inductive Run (keeping : archive.Keeping B Fault) (start : Hubs S B Ask Answer) :
    List (Hubs S B Ask Answer × Move B Fault) → Hubs S B Ask Answer → Prop where
  | start : Run keeping start [] start
  | move {path : List (Hubs S B Ask Answer × Move B Fault)} {hubs : Hubs S B Ask Answer}
      {move : Move B Fault} (run : Run keeping start path hubs)
      (permitted : hubs.Permits keeping move) :
      Run keeping start ((hubs, move) :: path) (hubs.after move)

/-- The courses that things can take at hubs.  Each move has one of its effects, which
leave it open who is in the rosters. -/
inductive Course (keeping : archive.Keeping B Fault) (start : Hubs S B Ask Answer) :
    List (Hubs S B Ask Answer × Move B Fault) → Hubs S B Ask Answer → Prop where
  | start : Course keeping start [] start
  | move {path : List (Hubs S B Ask Answer × Move B Fault)} {hubs after : Hubs S B Ask Answer}
      {move : Move B Fault} (course : Course keeping start path hubs)
      (permitted : hubs.Permits keeping move) (effect : hubs.Effect move after) :
      Course keeping start ((hubs, move) :: path) after

/-- The hubs after some moves. -/
def afterAll (hubs : Hubs S B Ask Answer) (moves : List (Move B Fault)) : Hubs S B Ask Answer :=
  moves.foldl Hubs.after hubs

/-- The path that some moves take. -/
def trail (hubs : Hubs S B Ask Answer) :
    List (Move B Fault) → List (Hubs S B Ask Answer × Move B Fault) →
      List (Hubs S B Ask Answer × Move B Fault)
  | [], path => path
  | move :: moves, path => (hubs.after move).trail moves ((hubs, move) :: path)

/-- Whether each of some moves is permitted when its turn comes. -/
def PermitsAll (keeping : archive.Keeping B Fault) (hubs : Hubs S B Ask Answer) :
    List (Move B Fault) → Prop
  | [] => True
  | move :: moves => hubs.Permits keeping move ∧ (hubs.after move).PermitsAll keeping moves

variable {keeping : archive.Keeping B Fault} {start hubs after : Hubs S B Ask Answer}
  {move : Move B Fault}

/-- A run is a course. -/
theorem Run.course {path : List (Hubs S B Ask Answer × Move B Fault)}
    (run : Run keeping start path hubs) : Course keeping start path hubs := by
  induction run with
  | start => exact .start
  | move run permitted ih => exact ih.move permitted (effect_after _)

theorem Run.of_moves {path : List (Hubs S B Ask Answer × Move B Fault)}
    {moves : List (Move B Fault)} (run : Run keeping start path hubs)
    (permitted : hubs.PermitsAll keeping moves) :
    Run keeping start (hubs.trail moves path) (hubs.afterAll moves) := by
  induction moves generalizing hubs path with
  | nil => exact run
  | cons move moves ih => exact ih (run.move permitted.1) permitted.2

omit [Lease.Lawful S] in
theorem mem_trail {path : List (Hubs S B Ask Answer × Move B Fault)}
    {moves later : List (Move B Fault)} :
    (hubs.afterAll moves, move) ∈ hubs.trail (moves ++ move :: later) path := by
  have kept : ∀ {hubs : Hubs S B Ask Answer} {path : List (Hubs S B Ask Answer × Move B Fault)}
      {moves : List (Move B Fault)} {at' : Hubs S B Ask Answer × Move B Fault}, at' ∈ path →
      at' ∈ hubs.trail moves path := by
    intro hubs path moves at' member
    induction moves generalizing hubs path with
    | nil => exact member
    | cons move moves ih => exact ih (List.mem_cons_of_mem _ member)
  induction moves generalizing hubs path with
  | nil =>
      change (hubs, move) ∈ (hubs.after move).trail later ((hubs, move) :: path)
      exact kept (List.mem_cons_self ..)
  | cons move moves ih => exact ih

instance [∀ question fault, Decidable (keeping.Happens question fault)]
    [∀ medium after, Decidable (keeping.Drifts medium after)] (hubs : Hubs S B Ask Answer)
    (move : Move B Fault) : Decidable (hubs.Permits keeping move) :=
  match move with
  | .step _ moment => inferInstanceAs (Decidable (hubs.site.IsFresh moment.token))
  | .perform _ _ now => inferInstanceAs (Decidable (hubs.site.Lasts now))
  | .resume _ moment => inferInstanceAs (Decidable (hubs.site.IsFresh moment.token))
  | .consult id failure =>
      inferInstanceAs (Decidable (hubs.need? id = some .archive ∧
        ∀ question ∈ hubs.question? id, ∀ fault ∈ failure, keeping.Happens question fault))
  | .drift medium => inferInstanceAs (Decidable (keeping.Drifts hubs.medium medium))
  | .join .. | .receive .. | .close .. | .frame .. | .leave .. => .isTrue trivial

instance decidablePermitsAll [∀ question fault, Decidable (keeping.Happens question fault)]
    [∀ medium after, Decidable (keeping.Drifts medium after)] (hubs : Hubs S B Ask Answer) :
    (moves : List (Move B Fault)) → Decidable (hubs.PermitsAll keeping moves)
  | [] => .isTrue trivial
  | move :: moves =>
      have := decidablePermitsAll (hubs.after move) moves
      inferInstanceAs (Decidable (hubs.Permits keeping move ∧
        (hubs.after move).PermitsAll keeping moves))

/-- What hubs do at their site is a permitted move of the site, or nothing. -/
theorem site_of_effect (effect : hubs.Effect move after) (permitted : hubs.Permits keeping move) :
    after.site = hubs.site ∨
      ∃ siteMove, hubs.site.Permits siteMove ∧ after.site = hubs.site.after siteMove := by
  cases effect with
  | opened _ _ _ _ _ _ site =>
      refine .inr ⟨_, ?_, site⟩
      trivial
  | locked _ _ _ _ kind _ site =>
      right
      rcases kind with ⟨moment, rfl, rfl | rfl⟩ | ⟨failure, now, rfl, rfl⟩
      · refine ⟨_, ?_, site⟩
        exact permitted
      · refine ⟨_, ?_, site⟩
        exact permitted
      · refine ⟨_, ?_, site⟩
        exact permitted
  | ended _ _ _ _ _ _ site =>
      refine .inr ⟨_, ?_, site⟩
      trivial
  | quiet _ _ _ site => exact .inl site
  | begun _ _ _ site => exact .inl site
  | replied _ _ _ _ site => exact .inl site
  | refused _ _ _ _ site => exact .inl site
  | asked _ _ _ _ _ site => exact .inl site
  | consulted _ _ _ site => exact .inl site
  | closed _ _ _ _ _ site => exact .inl site
  | drifted _ site => exact .inl site

/-- The site of hubs goes through a run of its own. -/
theorem Course.site {path : List (Hubs S B Ask Answer × Move B Fault)}
    (course : Course keeping start path hubs) :
    ∃ sitePath, Site.Run start.site sitePath hubs.site := by
  induction course with
  | start => exact ⟨[], .start⟩
  | move course permitted effect ih =>
      obtain ⟨sitePath, siteRun⟩ := ih
      rcases site_of_effect effect permitted with same | ⟨siteMove, allowed, after⟩
      · rw [same]
        exact ⟨sitePath, siteRun⟩
      · rw [after]
        exact ⟨_, siteRun.move allowed⟩

end

/-! ## Moves of one job -/

/-- A job goes on. -/
def goesOn (job : JobId) : Move B Fault := .step job (.at ⟨0⟩ .zero "spare")

/-- A job opens its section and gets the lock. -/
def enters (job : JobId) (token : String) : List (Move B Fault) :=
  [goesOn job, .step job (.at ⟨0⟩ .zero token), .perform job none ⟨0⟩,
    .resume job (.at ⟨0⟩ .zero "spare"), .perform job none ⟨0⟩,
    .resume job (.at ⟨0⟩ .zero "spare")]

/-- The body of a job's section ends, and the lock is given back. -/
def givesBack (job : JobId) : List (Move B Fault) :=
  [goesOn job, .perform job none ⟨0⟩, .resume job (.at ⟨0⟩ .zero "spare"), goesOn job]

end Hubs

end Coedit
