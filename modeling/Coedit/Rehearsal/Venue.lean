import Coedit.Rehearsal.Replacing
import Coedit.Rehearsal.Scene
import Coedit.Visit

/-!
# A venue of hubs

A world in which hubs are played with by name: sessions that the players hold in
their own hands, and sessions at the far end of a connection, whose visits are
tasks of their own.
-/

namespace Coedit.Rehearsal

/-- A session that has a name. -/
structure Guest where
  hub : HubId
  document : DocumentId
  session : SessionId
  deriving DecidableEq, Repr

/-- What is sent over a connection. -/
inductive Message where
  | binary (bytes : Bytes)
  | text
  | ping (payload : Bytes)
  | gone
  deriving DecidableEq, Repr

def Message.arrival : Message → Arrival
  | .binary bytes => .binary bytes
  | .text => .other
  | .ping _ => .other
  | .gone => .gone

/-- The answer to a ping, which the connection gives by itself. -/
def Message.pong? : Message → Option Bytes
  | .ping payload => some payload
  | _ => none

/-- A connection, seen from the far end. -/
structure Connection where
  visit : VisitId
  /-- What was sent and not taken yet. -/
  sent : List Message
  /-- What came back and was not looked at yet. -/
  frames : List Frame
  pongs : List Bytes
  /-- Whether the far end can send. -/
  isOpen : Bool
  /-- Whether the near end has closed. -/
  closed : Bool

structure Venue (α : Type) where
  visits : Visits Troubled Depot Depot.Question Depot.Question.Answer
  seeker : Option Seeker
  holds : Table String Lock.Hold
  guests : Table String Guest
  connections : Table String Connection
  result : Option α

namespace Venue

variable {α : Type}

/-- The hubs of a site, one for each service, on an archive of a depot. -/
def create (site : Site Troubled (Option Bytes) Section.Error) (archive : Depot.DepotArchive)
    (depot : Depot) (engine : Engine) (services : List ServiceId) : Venue α :=
  let hubs := services.foldl (fun hubs id => hubs.addHub id id engine)
    (Hubs.create site (Depot.troubled archive) depot)
  ⟨.create hubs, none, .empty, .empty, .empty, none⟩

def hubs (venue : Venue α) : Hubs Troubled Depot Depot.Question Depot.Question.Answer :=
  venue.visits.hubs

def setHubs (hubs : Hubs Troubled Depot Depot.Question Depot.Question.Answer)
    (venue : Venue α) : Venue α :=
  { venue with visits := { venue.visits with hubs := hubs } }

def modifyHubs (change : Hubs Troubled Depot Depot.Question Depot.Question.Answer →
    Hubs Troubled Depot Depot.Question Depot.Question.Answer) (venue : Venue α) : Venue α :=
  setHubs (change venue.hubs) venue

instance : HasSite (Venue α) (Option Bytes) Section.Error where
  site venue := venue.hubs.site
  setSite site := modifyHubs fun hubs => { hubs with site := site }

instance : HasSeeker (Venue α) :=
  ⟨Venue.seeker, fun seeker venue => { venue with seeker := seeker }⟩

instance : HasResult (Venue α) α :=
  ⟨Venue.result, fun result venue => { venue with result := some result }⟩

/-- Do something with the venue at once. -/
def now {ρ : Type} (piece : Venue α → ρ × Venue α) (next : ρ → Play (Venue α)) :
    Play (Venue α) :=
  act (fun _ _ venue => piece venue) next

/-- Change the venue and go on. -/
def change (piece : Venue α → Venue α) (next : Play (Venue α)) : Play (Venue α) :=
  now (fun venue => ((), piece venue)) fun _ => next

/-! ## Jobs -/

/-- Whether the operation of the archive that a job needs takes time. -/
def isSlowArchive (venue : Venue α) (id : JobId) : Bool :=
  match (venue.hubs.jobs.get? id).bind Job.opened with
  | some (_, .ask (.inr question) _) => question.isSlow
  | _ => false

def jobNeed? (venue : Venue α) (id : JobId) : Option Need :=
  match venue.hubs.need? id with
  | none => none
  | some .step => some .step
  | some (.lock (.call _)) => some (.call (isSlow venue))
  | some (.lock (.pause duration)) => some (.pause duration)
  | some .archive => some (.call (venue.isSlowArchive id))

/-- The call of a job takes effect. -/
def performJob (id : JobId) (shown now : Instant) (venue : Venue α) : Venue α :=
  modifyHubs (fun hubs =>
    let hubs := { hubs with site := showClock shown hubs.site }
    match hubs.need? id with
    | some .archive => hubs.consult id (none : Option Empty)
    | _ => hubs.performCall id none now) venue

/-- A job goes on. -/
def resumeJob (id : JobId) (moment : Lock.Moment) : Venue α → Venue α :=
  modifyHubs fun hubs =>
    match hubs.need? id with
    | some (.lock _) => hubs.resume id moment
    | _ => hubs.step id moment

def jobCourse (id : JobId) : Course (Venue α) :=
  ⟨fun venue => venue.jobNeed? id, performJob id, resumeJob id⟩

/-- Begin a job. -/
def beginJob (hub : HubId) (work : Hub.Handling) (next : JobId → Play (Venue α)) :
    Play (Venue α) :=
  now (fun venue =>
    let (id, hubs) := venue.hubs.begin hub work
    (id, setHubs hubs venue)) next

/-- Let a hub do something on the caller's task. -/
def runJob (hub : HubId) (work : Hub.Handling) (next : Hub.Outcome → Play (Venue α)) :
    Play (Venue α) :=
  beginJob hub work fun id =>
    (jobCourse id).play <|
      now (fun venue => (venue.hubs.result? id, venue)) fun
        | some outcome => next outcome
        | none => .stop

/-- Let a hub do something several times, one after the other; the outcome is that
of the last time. -/
def runJobs (hub : HubId) (work : Hub.Handling) (next : Hub.Outcome → Play (Venue α)) :
    Nat → Hub.Outcome → Play (Venue α)
  | 0, outcome => next outcome
  | times + 1, _ => runJob hub work fun outcome => runJobs hub work next times outcome

/-- Let hubs do several things at the same time. -/
def together (next : List Hub.Outcome → Play (Venue α)) :
    List (HubId × Hub.Handling) → List JobId → Play (Venue α)
  | [], ids =>
      awaitThat (fun venue => ids.all fun id => (venue.hubs.result? id).isSome) <|
        now (fun venue => (ids.reverse.filterMap venue.hubs.result?, venue)) next
  | (hub, work) :: rest, ids =>
      beginJob hub work fun id =>
        .spawn none (fun stage => stage) ((jobCourse id).play .stop)
          (together next rest (id :: ids))

/-! ## Sessions -/

def modifyRoster (hub : HubId) (change : Roster → Roster) (venue : Venue α) : Venue α :=
  { venue with visits := venue.visits.modifyRoster hub change }

/-- Let a name go: its session stays where it is, but nobody listens for it any
more. -/
def forgetGuest (name : String) (venue : Venue α) : Venue α :=
  match venue.guests.get? name with
  | none => venue
  | some guest =>
      modifyRoster guest.hub
        (fun roster => roster.modifyOutbox guest.session fun outbox => outbox.drain.2.close)
        { venue with guests := venue.guests.erase name }

/-- A session joins a document and has a name from now on. -/
def joinAs (name : String) (hub : HubId) (document : DocumentId)
    (next : Option SessionId → Play (Venue α)) : Play (Venue α) :=
  now (fun venue =>
    let venue := forgetGuest name venue
    match venue.hubs.join hub document with
    | (none, _) => (none, venue)
    | (some session, hubs) =>
        (some session, setHubs hubs
          { venue with guests := venue.guests.insert name ⟨hub, document, session⟩ })) next

/-- Take out what the outbox of a session has. -/
def receive (guest : Guest) (venue : Venue α) : List Frame × Venue α :=
  match venue.hubs.hubs.get? guest.hub with
  | none => ([], venue)
  | some hub => ((hub.roster.outbox guest.session).queue,
      modifyRoster guest.hub (fun roster => (roster.receive guest.session).2) venue)

/-- Shut a hub and its service down. -/
def shutDownHub (id : HubId) (next : Play (Venue α)) : Play (Venue α) :=
  now (fun venue => (venue.hubs.hubs.get? id, venue)) fun
    | none => next
    | some hub =>
        runJob id (Hub.flushAll hub.cache.documents) fun _ => shutDown hub.service next

/-! ## Locks in other hands -/

/-- Try once to get a lock by a locker of its own. -/
def hold (locker : ServiceId) (key : String) (next : Bool → Play (Venue α)) : Play (Venue α) :=
  seek locker
    (fun settings moment => .acquisition (.start key .unguarded settings .zero moment)) fun
    | .error _ => next false
    | .ok token =>
        act (fun _ now venue =>
          let hold : Lock.Hold :=
            ⟨key, token.getD "", now, (venue.hubs.site.locker locker).settings.ttl⟩
          (true, { venue with holds := venue.holds.insert key hold })) next

/-- Give a lock back. -/
def unhold (locker : ServiceId) (key : String) (next : Option Bool → Play (Venue α)) :
    Play (Venue α) :=
  now (fun venue => (venue.holds.get? key, { venue with holds := venue.holds.erase key })) fun
    | none => next none
    | some hold => makeCall locker (.revoke hold.key hold.token) fun reply =>
        next (some (reply.toOption.getD false))

/-! ## Connections -/

def modifyConnection (name : String) (change : Connection → Connection) (venue : Venue α) :
    Venue α :=
  { venue with connections := venue.connections.modify name change }

def connection? (venue : Venue α) (name : String) : Option Connection :=
  venue.connections.get? name

/-- The visit takes the next message there is. -/
def takeMessage (name : String) (id : VisitId) (venue : Venue α) : Venue α :=
  match venue.connection? name with
  | some ⟨visit, message :: rest, frames, pongs, isOpen, closed⟩ =>
      let connection : Connection :=
        ⟨visit, rest, frames, pongs ++ message.pong?.toList, isOpen, closed⟩
      { venue with
        visits := venue.visits.receive id message.arrival
        connections := venue.connections.insert name connection }
  | _ => venue

/-- What a visit does next.  Others can go on before it takes a message. -/
def visitRound (name : String) (id : VisitId) (stage : Stage (Venue α)) :
    Option (Play (Venue α)) :=
  let venue := stage.subject
  let follow : Play (Venue α) :=
    change (fun venue => { venue with visits := venue.visits.follow id }) .stop
  match venue.visits.visit? id with
  | none => none
  | some visit =>
      match visit.phase with
      | .listening => some <|
          awaitThat (fun venue =>
            (venue.connection? name).any fun connection => !connection.sent.isEmpty)
            (.yield (change (takeMessage name id) .stop))
      | .handling job => some ((jobCourse job).play follow)
      | .leaving job => some ((jobCourse job).play follow)
      | .replying [] => some follow
      | .replying _ => some <|
          awaitThat (fun venue =>
            let outbox := venue.visits.outbox visit
            outbox.hasRoom || !outbox.isOpen) follow
      | .over => none

/-- Whether a session has left. -/
def hasLeft (venue : Venue α) (visit : Visit) : Bool :=
  match venue.hubs.hubs.get? visit.hub with
  | none => true
  | some hub => (hub.roster.seats visit.document).all fun seat => seat.1 ≠ visit.session

/-- What the near end of a connection does next: deliver what is in the outbox until
the session has left. -/
def deliveryRound (name : String) (visit : Visit) (id : VisitId) (stage : Stage (Venue α)) :
    Option (Play (Venue α)) :=
  let isWaiting (venue : Venue α) := (venue.visits.outbox visit).queue.isEmpty
  if isWaiting stage.subject && stage.subject.hasLeft visit then none
  else some <|
    awaitThat (fun venue => !isWaiting venue || venue.hasLeft visit) <|
      change (fun venue =>
        let (frames, visits) := venue.visits.deliver id
        modifyConnection name
          (fun connection => { connection with frames := connection.frames ++ frames })
          { venue with visits := visits }) .stop

/-- Open a connection to a document. -/
def connect (name : String) (hub : HubId) (document : DocumentId) (next : Play (Venue α)) :
    Play (Venue α) :=
  now (fun venue =>
    match venue.visits.arrive hub document with
    | (some id, visits) =>
        (visits.visit? id |>.map fun visit => (id, visit),
          { venue with
            visits := visits
            connections := venue.connections.insert name ⟨id, [], [], [], true, false⟩ })
    | (none, _) => (none, venue)) fun
    | none => next
    | some (id, visit) =>
        .spawn none (fun stage => stage) (.repeated (visitRound name id) .stop) <|
          .spawn none (fun stage => stage)
            (.repeated (deliveryRound name visit id) <|
              change (modifyConnection name fun connection => { connection with closed := true })
                .stop)
            next

/-- Send over a connection: is it open? -/
def send (name : String) (messages : List Message) (next : Bool → Play (Venue α)) :
    Play (Venue α) :=
  now (fun venue =>
    let isOpen := (venue.connection? name).any fun connection =>
      connection.isOpen && !connection.closed
    (isOpen, if isOpen then
      modifyConnection name (fun connection =>
        { connection with
          sent := connection.sent ++ messages
          isOpen := !messages.contains .gone }) venue
      else venue)) next

/-- Look at what has come back over a connection. -/
def collect (name : String) (next : Option Connection → Play (Venue α)) : Play (Venue α) :=
  now (fun venue =>
    (venue.connection? name,
      modifyConnection name (fun connection => { connection with frames := [], pongs := [] })
        venue)) next

end Venue

end Coedit.Rehearsal
