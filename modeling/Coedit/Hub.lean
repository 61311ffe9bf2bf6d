import Coedit.Hub.Handling
import Coedit.Hub.Section
import Coedit.Site

/-!
# Hubs

A hub brings the sessions of documents together: it keeps the loaded documents and
the roster, and handles what the sessions send.  Several hubs share a lease store
and an archive.  Whatever a hub was asked to do is a job; the functions of `Hubs`
are the atomic steps of jobs, and any order of such steps is a run.
-/

namespace Coedit

/-- Which hub. -/
abbrev HubId := Nat

/-- Which job of the hubs. -/
abbrev JobId := Nat

structure Hub where
  /-- The service whose locks and settings the hub works with. -/
  service : ServiceId
  engine : Engine
  roster : Roster
  cache : Cache

namespace Hub

/-- Answer a call of a section. -/
def answer (hub : Hub) (now : Instant) : (call : Section.Call) → call.Answer × Hub
  | .find document => (hub.cache.find? document, hub)
  | .look cell => (hub.cache.look? cell, hub)
  | .place document snapshot =>
      let (cell, cache) := hub.cache.place document (.ofSnapshot snapshot now)
      (cell, { hub with cache := cache })
  | .refresh cell snapshot =>
      let (allowed, cache) := hub.cache.revise cell fun _ => .ofSnapshot snapshot now
      (allowed, { hub with cache := cache })
  | .commit cell content =>
      let (allowed, cache) := hub.cache.revise cell fun document =>
        (document.revise content now).markClean
      (allowed, { hub with cache := cache })
  | .clean cell =>
      let (allowed, cache) := hub.cache.revise cell .markClean
      (allowed, { hub with cache := cache })
  | .poison cell => ((), { hub with cache := hub.cache.poison cell })
  | .forget document => ((), { hub with cache := hub.cache.forget document })
  | .sessions document => (hub.roster.count document, hub)

/-- The version of a loaded document and whether it has still to be stored, or
that nobody may look at it. -/
def status? (hub : Hub) (document : DocumentId) : Option (Except Unit (Nat × Bool)) :=
  (hub.cache.find? document).map fun cell =>
    match hub.cache.look? cell with
    | some loaded => .ok (loaded.version, loaded.dirty)
    | none => .error ()

end Hub

/-- Something a hub was asked to do and has not finished. -/
structure Job (Ask : Type) (Answer : Ask → Type) where
  hub : HubId
  /-- What is still to be done. -/
  rest : Hub.Handling
  /-- The section the job has open, as an operation and what is left of its body. -/
  opened : Option (OperationId × Section Ask Answer (Option Bytes))

/-- Hubs that share a lease store and an archive. -/
structure Hubs (S B Ask : Type) (Answer : Ask → Type) where
  site : Site S (Option Bytes) Section.Error
  archive : Archive Ask Answer
  /-- What the archive is kept on. -/
  medium : B
  hubs : Table HubId Hub
  jobs : Table JobId (Job Ask Answer)
  nextJob : JobId

namespace Hubs

variable {S B Ask : Type} {Answer : Ask → Type}

/-- No hub yet. -/
def create (site : Site S (Option Bytes) Section.Error) (archive : Archive Ask Answer)
    (medium : B) : Hubs S B Ask Answer :=
  ⟨site, archive, medium, .empty, .empty, 0⟩

def addHub (hubs : Hubs S B Ask Answer) (id : HubId) (service : ServiceId) (engine : Engine) :
    Hubs S B Ask Answer :=
  { hubs with hubs := hubs.hubs.insert id ⟨service, engine, .empty, .empty⟩ }

def setHub (hubs : Hubs S B Ask Answer) (id : HubId) (hub : Hub) : Hubs S B Ask Answer :=
  { hubs with hubs := hubs.hubs.insert id hub }

/-- A session joins a document. -/
def join (hubs : Hubs S B Ask Answer) (id : HubId) (document : DocumentId) :
    Option SessionId × Hubs S B Ask Answer :=
  match hubs.hubs.get? id with
  | none => (none, hubs)
  | some hub =>
      let (session, roster) := hub.roster.join document
      (some session, hubs.setHub id { hub with roster := roster })

/-- Begin a job. -/
def begin (hubs : Hubs S B Ask Answer) (hub : HubId) (work : Hub.Handling) :
    JobId × Hubs S B Ask Answer :=
  (hubs.nextJob, { hubs with
    jobs := hubs.jobs.insert hubs.nextJob ⟨hub, work, none⟩
    nextJob := hubs.nextJob + 1 })

/-- What a job waits for. -/
inductive Need where
  /-- Nothing: it can go on. -/
  | step
  | lock (need : Lock.Need)
  /-- An operation of the archive. -/
  | archive
  deriving DecidableEq, Repr

/-- What a job waits for, if it is not done. -/
def need? (hubs : Hubs S B Ask Answer) (id : JobId) : Option Need :=
  match hubs.jobs.get? id with
  | none => none
  | some job =>
      match job.rest with
      | .done _ => none
      | .ask _ _ =>
          match job.opened with
          | none => some .step
          | some (operation, body) =>
              match hubs.site.need? operation with
              | some (.lock need) => some (.lock need)
              | some .body =>
                  match body with
                  | .ask (.inr _) _ => some .archive
                  | _ => some .step
              | _ => some .step

/-- How a job ended. -/
def result? (hubs : Hubs S B Ask Answer) (id : JobId) : Option Hub.Outcome :=
  match hubs.jobs.get? id with
  | some ⟨_, .done outcome, _⟩ => some outcome
  | _ => none

def setJob (hubs : Hubs S B Ask Answer) (id : JobId) (job : Job Ask Answer) :
    Hubs S B Ask Answer :=
  { hubs with jobs := hubs.jobs.insert id job }

/-- What a task does in its section; only the two tasks of a session hand anything
out. -/
def body (archive : Archive Ask Answer) (engine : Engine) (document : DocumentId) :
    Hub.Task → Section Ask Answer (Option Bytes)
  | .diff vector => (Section.diff archive engine document vector).andThen fun lacking =>
      Section.finish (some lacking)
  | .merge update => Section.merge archive engine document update
  | .flush => (Section.flush archive document).andThen fun _ => Section.finish none
  | .evict => (Section.evict archive document).andThen fun _ => Section.finish none

/-- Answer the call a job makes while it has no section open.  A call for a section
opens it, unless the service turns it down. -/
def answer (hubs : Hubs S B Ask Answer) (id : JobId) (job : Job Ask Answer) (hub : Hub)
    (call : Hub.Call) (next : call.Answer → Hub.Handling) : Hubs S B Ask Answer :=
  match call with
  | .section document task =>
      match hubs.site.enter hub.service (.document document) none with
      | .error failure => hubs.setJob id { job with rest := next (.error failure) }
      | .ok (operation, site) =>
          setJob { hubs with site := site } id
            { job with opened := some (operation, body hubs.archive hub.engine document task) }
  | .broadcast document sender frame =>
      let (reached, roster) := hub.roster.broadcast document sender frame
      (hubs.setHub job.hub { hub with roster := roster }).setJob id
        { job with rest := next reached }
  | .announce document session payload =>
      let roster := hub.roster.setAwareness document session payload
      (hubs.setHub job.hub { hub with roster := roster }).setJob id { job with rest := next () }
  | .presences document =>
      hubs.setJob id { job with rest := next (hub.roster.awareness document) }
  | .depart document session =>
      let (left, roster) := hub.roster.leave document session
      (hubs.setHub job.hub { hub with roster := roster }).setJob id
        { job with rest := next left }
  | .isLoaded document =>
      hubs.setJob id { job with rest := next (hub.cache.find? document).isSome }

/-- A job with an open section goes on: its operation begins, its body makes a call
of its own or ends, or the section is over and has a result. -/
def stepSection (hubs : Hubs S B Ask Answer) (id : JobId) (job : Job Ask Answer) (hub : Hub)
    (operation : OperationId) (body : Section Ask Answer (Option Bytes))
    (moment : Lock.Moment) : Hubs S B Ask Answer :=
  match hubs.site.need? operation with
  | some .start => { hubs with site := hubs.site.resume operation moment }
  | some .body =>
      match body with
      | .done ending => { hubs with site := hubs.site.bodyEnded operation ending }
      | .ask (.inl call) next =>
          let (answer, hub) := hub.answer (moment.clock 0) call
          (hubs.setHub job.hub hub).setJob id { job with opened := some (operation, next answer) }
      | .ask (.inr _) _ => hubs
  | some (.lock _) => hubs
  | none =>
      match hubs.site.result? operation, job.rest with
      | some result, .ask (.section _ _) next =>
          hubs.setJob id { job with rest := next result, opened := none }
      | _, _ => hubs

/-- A job goes on that waits for nothing. -/
def step (hubs : Hubs S B Ask Answer) (id : JobId) (moment : Lock.Moment) :
    Hubs S B Ask Answer :=
  match hubs.jobs.get? id with
  | none => hubs
  | some job =>
      match hubs.hubs.get? job.hub, job.rest, job.opened with
      | some hub, .ask call next, none => hubs.answer id job hub call next
      | some hub, .ask _ _, some (operation, body) =>
          hubs.stepSection id job hub operation body moment
      | _, _, _ => hubs

/-- The operation of the section a job has open. -/
def operation? (hubs : Hubs S B Ask Answer) (id : JobId) : Option OperationId :=
  (hubs.jobs.get? id).bind fun job => job.opened.map Prod.fst

/-- The call to the lease store that a job needs takes effect, or fails without
effect. -/
def performCall [Lease.Store S] (hubs : Hubs S B Ask Answer) (id : JobId)
    (failure : Option StoreError) (now : Instant) : Hubs S B Ask Answer :=
  match hubs.operation? id with
  | some operation => { hubs with site := hubs.site.perform operation failure now }
  | none => hubs

/-- The answer to that call arrives, or a pause is over. -/
def resume (hubs : Hubs S B Ask Answer) (id : JobId) (moment : Lock.Moment) :
    Hubs S B Ask Answer :=
  match hubs.operation? id with
  | some operation => { hubs with site := hubs.site.resume operation moment }
  | none => hubs

/-- The operation of the archive that a job needs takes effect, or fails without
effect. -/
def consult {Fault : Type} [Medium B Fault Ask Answer] (hubs : Hubs S B Ask Answer) (id : JobId)
    (failure : Option Fault) : Hubs S B Ask Answer :=
  match hubs.jobs.get? id with
  | some job =>
      match job.opened with
      | some (operation, .ask (.inr question) next) =>
          let (answer, medium) := Medium.attempt failure question hubs.medium
          setJob { hubs with medium := medium } id
            { job with opened := some (operation, next answer) }
      | _ => hubs
  | none => hubs

end Hubs

end Coedit
