import Coedit.Proofs.Hub.Alike
import Coedit.Proofs.Hub.Jobs
import Coedit.Visit
import Mathlib.Data.List.Count

/-!
# Salons

Visits at a foyer: each takes what arrives over its connection, lets a job handle it, puts
the answers into its own outbox, and leaves when the connection is gone.  Rooms are looked
up first and used later, and anything may happen to locks, archive and caches meanwhile.
A visit has one job at a time.
-/

namespace Coedit

/-- What a visit does about what arrives. -/
def Arrival.work? (document : DocumentId) (session : SessionId) : Arrival → Option Hub.Handling
  | .binary bytes => some (Hub.handleBytes document session bytes)
  | .other => none
  | .gone => some (Hub.dismiss document session)

/-- Visits, and who has looked up which room. -/
structure Salon (S B Ask : Type) (Answer : Ask → Type) where
  visits : Visits S B Ask Answer
  shown : Table Visitor RoomId

/-- Change the loaded documents of a hub. -/
def Hubs.modifyCache {S B Ask : Type} {Answer : Ask → Type} (hubs : Hubs S B Ask Answer)
    (id : HubId) (change : Cache → Cache) : Hubs S B Ask Answer :=
  match hubs.hubs.get? id with
  | none => hubs
  | some hub => hubs.setHub id { hub with cache := change hub.cache }

namespace Foyer

variable {S B Fault Ask : Type} {Answer : Ask → Type} {foyer : Foyer S B Ask Answer}
  {hub home : HubId} {document other : DocumentId} {id job : JobId} {room : RoomId}

theorem looked_attend {act : Roster → RoomId → Nat → Nat × Roster} {next : Nat → Hub.Handling}
    (looked : (foyer.attend id home other act next).visits.get? ⟨hub, document, .job job⟩ =
      some room) :
    (∃ room, foyer.visits.get? ⟨hub, document, .job job⟩ = some room) ∨ id = job := by
  unfold attend at looked
  split at looked
  · exact .inl ⟨room, looked⟩
  · split at looked
    · exact .inl ⟨room, (Table.get?_of_erase looked).2⟩
    · split at looked
      · rw [Table.get?_insert] at looked
        split at looked
        · next same =>
            cases same
            exact .inr rfl
        · exact .inl ⟨room, looked⟩
      · exact .inl ⟨room, looked⟩

/-- A job looks up a room only as it goes on. -/
theorem looked_after [Lease.Store S] [Medium B Fault Ask Answer] {move : Move B Fault}
    (looked : (foyer.after move).visits.get? ⟨hub, document, .job job⟩ = some room) :
    (∃ room, foyer.visits.get? ⟨hub, document, .job job⟩ = some room) ∨
      ∃ moment, move = .hubs (.step job moment) := by
  cases move with
  | sit home other session =>
      simp only [after, sit] at looked
      split at looked
      · exact .inl ⟨room, looked⟩
      · exact .inl ⟨room, (Table.get?_of_erase looked).2⟩
  | visit guest home other =>
      simp only [after, visit] at looked
      split at looked
      · exact .inl ⟨room, looked⟩
      · rw [Table.get?_insert, if_neg (by simp)] at looked
        exact .inl ⟨room, looked⟩
  | quit guest home other => exact .inl ⟨room, (Table.get?_of_erase looked).2⟩
  | hubs move =>
      cases move with
      | join home other =>
          simp only [after, arrive] at looked
          split at looked
          · exact .inl ⟨room, looked⟩
          · rw [Table.get?_insert, if_neg (by simp)] at looked
            exact .inl ⟨room, looked⟩
      | step id moment =>
          have looks : (∃ room, foyer.visits.get? ⟨hub, document, .job job⟩ = some room) ∨
              id = job := by
            simp only [after, step] at looked
            split at looked
            · exact looked_attend looked
            · exact looked_attend looked
            · exact .inl ⟨room, looked⟩
          refine looks.imp_right ?_
          rintro rfl
          exact ⟨moment, rfl⟩
      | _ => exact .inl ⟨room, looked⟩

end Foyer

namespace Salon

variable {S B Fault Ask : Type} {Answer : Ask → Type}

/-! ## Steps -/

def foyer (salon : Salon S B Ask Answer) : Foyer S B Ask Answer := ⟨salon.visits.hubs, salon.shown⟩

/-- The salon at another foyer. -/
def setFoyer (salon : Salon S B Ask Answer) (foyer : Foyer S B Ask Answer) :
    Salon S B Ask Answer :=
  ⟨{ salon.visits with hubs := foyer.hubs }, foyer.visits⟩

def modifyHubs (salon : Salon S B Ask Answer)
    (change : Hubs S B Ask Answer → Hubs S B Ask Answer) : Salon S B Ask Answer :=
  salon.setFoyer { salon.foyer with hubs := change salon.foyer.hubs }

/-- The job of a visit. -/
def job? (salon : Salon S B Ask Answer) (id : VisitId) : Option JobId :=
  match (salon.visits.visit? id).map Visit.phase with
  | some (.handling job) => some job
  | some (.leaving job) => some job
  | _ => none

/-- Let the job of a visit go on. -/
def onJob (salon : Salon S B Ask Answer) (id : VisitId)
    (change : JobId → Foyer S B Ask Answer → Foyer S B Ask Answer) : Salon S B Ask Answer :=
  match salon.job? id with
  | some job => salon.setFoyer (change job salon.foyer)
  | none => salon

/-- Change the outbox of a visit. -/
def onOutbox (salon : Salon S B Ask Answer) (id : VisitId) (change : Outbox → Outbox) :
    Salon S B Ask Answer :=
  match salon.visits.visit? id with
  | some visit => salon.modifyHubs fun hubs =>
      hubs.modifyRoster visit.hub fun roster => roster.modifyOutbox visit.session change
  | none => salon

/-- A session that was shown its room sits down, and its visit begins. -/
def sit (salon : Salon S B Ask Answer) (hub : HubId) (document : DocumentId)
    (session : SessionId) : Salon S B Ask Answer :=
  match salon.shown.get? ⟨hub, document, .session session⟩ with
  | none => salon
  | some _ =>
      let seated := salon.setFoyer (salon.foyer.sit hub document session)
      { seated with visits := { seated.visits with
          visits := seated.visits.visits.insert seated.visits.nextVisit
            ⟨hub, document, session, .listening⟩
          nextVisit := seated.visits.nextVisit + 1 } }

/-- What can happen at a salon. -/
inductive Move (S B Fault : Type) where
  /-- A session comes to join. -/
  | come (hub : HubId) (document : DocumentId)
  | sit (hub : HubId) (document : DocumentId) (session : SessionId)
  | receive (id : VisitId) (arrival : Arrival)
  | follow (id : VisitId)
  /-- The job of a visit goes on that waits for nothing. -/
  | step (id : VisitId) (moment : Lock.Moment)
  /-- The call to the lease store that the job needs takes effect, or fails without
  effect. -/
  | perform (id : VisitId) (failure : Option StoreError) (now : Instant)
  /-- The answer to that call arrives, or a pause is over. -/
  | resume (id : VisitId) (moment : Lock.Moment)
  /-- The operation of the archive that the job needs takes effect, or fails without
  effect. -/
  | consult (id : VisitId) (failure : Option Fault)
  /-- The connection takes the oldest frames out of the outbox. -/
  | fetch (id : VisitId) (count : Nat)
  /-- The connection takes no more frames. -/
  | hangUp (id : VisitId)
  /-- Somebody looks up the room of a document to see who is there. -/
  | look (guest : Nat) (hub : HubId) (document : DocumentId)
  | quit (guest : Nat) (hub : HubId) (document : DocumentId)
  /-- Others do something with the locks that they share. -/
  | site (change : Site S (Option Bytes) Section.Error → Site S (Option Bytes) Section.Error)
  /-- The medium of the archive changes by itself. -/
  | drift (change : B → B)
  /-- The documents that a hub has loaded change by themselves. -/
  | cache (hub : HubId) (change : Cache → Cache)

/-- The salon after a move.  What nobody is about to do does nothing. -/
def after [Lease.Store S] [Medium B Fault Ask Answer] (salon : Salon S B Ask Answer) :
    Move S B Fault → Salon S B Ask Answer
  | .come hub document => salon.setFoyer (salon.foyer.arrive hub document)
  | .sit hub document session => salon.sit hub document session
  | .receive id arrival => { salon with visits := salon.visits.receive id arrival }
  | .follow id => { salon with visits := salon.visits.follow id }
  | .step id moment => salon.onJob id fun job foyer => foyer.step job moment
  | .perform id failure now =>
      salon.onJob id fun job foyer => { foyer with hubs := foyer.hubs.performCall job failure now }
  | .resume id moment =>
      salon.onJob id fun job foyer => { foyer with hubs := foyer.hubs.resume job moment }
  | .consult id failure =>
      salon.onJob id fun job foyer => { foyer with hubs := foyer.hubs.consult job failure }
  | .fetch id count =>
      salon.onOutbox id fun outbox => { outbox with queue := outbox.queue.drop count }
  | .hangUp id => salon.onOutbox id Outbox.close
  | .look guest hub document => salon.setFoyer (salon.foyer.visit guest hub document)
  | .quit guest hub document => salon.setFoyer (salon.foyer.quit guest hub document)
  | .site change => salon.modifyHubs fun hubs => { hubs with site := change hubs.site }
  | .drift change => salon.modifyHubs fun hubs => { hubs with medium := change hubs.medium }
  | .cache hub change => salon.modifyHubs fun hubs => hubs.modifyCache hub change

/-- A visit takes what arrives only while it listens. -/
def Permits (salon : Salon S B Ask Answer) : Move S B Fault → Prop
  | .receive id _ => (salon.visits.visit? id).map Visit.phase = some .listening
  | _ => True

/-- Whether some moves can be made one after the other. -/
def IsRun [Lease.Store S] [Medium B Fault Ask Answer] (salon : Salon S B Ask Answer) :
    List (Move S B Fault) → Prop
  | [] => True
  | move :: moves => salon.Permits move ∧ (salon.after move).IsRun moves

instance (salon : Salon S B Ask Answer) (move : Move S B Fault) : Decidable (salon.Permits move) :=
  match move with
  | .receive _ _ => inferInstanceAs (Decidable (_ = _))
  | .come _ _ | .sit _ _ _ | .follow _ | .step _ _ | .perform _ _ _ | .resume _ _ | .consult _ _
  | .fetch _ _ | .hangUp _ | .look _ _ _ | .quit _ _ _ | .site _ | .drift _ | .cache _ _ =>
      .isTrue trivial

instance decidableIsRun [Lease.Store S] [Medium B Fault Ask Answer] (salon : Salon S B Ask Answer) :
    (moves : List (Move S B Fault)) → Decidable (salon.IsRun moves)
  | [] => .isTrue trivial
  | move :: moves =>
      have := decidableIsRun (salon.after move) moves
      inferInstanceAs (Decidable (salon.Permits move ∧ (salon.after move).IsRun moves))

/-- The salon after some moves. -/
def afterAll [Lease.Store S] [Medium B Fault Ask Answer] (salon : Salon S B Ask Answer)
    (moves : List (Move S B Fault)) : Salon S B Ask Answer :=
  moves.foldl after salon

/-! ## What is told of a run -/

/-- What others notice of a move. -/
inductive Event where
  /-- A session has joined. -/
  | joined (hub : HubId) (session : SessionId)
  /-- A session has left. -/
  | left (hub : HubId) (session : SessionId)
  /-- The lease store was called. -/
  | called (service : ServiceId) (call : Lease.Call) (now : Instant) (reply : Lease.Reply)
  /-- A connection has taken frames. -/
  | fetched (id : VisitId) (frames : List Frame)
  deriving DecidableEq

/-- The call to the lease store that is made for an operation, and its answer. -/
def called? [Lease.Store S] {α ε : Type} (site : Site S α ε) (operation : OperationId)
    (failure : Option StoreError) (now : Instant) : Option Event :=
  match site.operations.get? operation with
  | none => none
  | some entry =>
      match entry.operation.need?, entry.reply with
      | some (.lock (.call call)), none =>
          some (.called entry.service call now
            (site.lockers.call entry.service failure now call).1)
      | _, _ => none

/-- The session that leaves with the step of a job: it gets up from the room that was looked
up, or there is none. -/
def left? (foyer : Foyer S B Ask Answer) (id : JobId) : Option Event :=
  match foyer.hubs.jobs.get? id with
  | some ⟨home, .ask (.depart document session) _, none⟩ =>
      match foyer.hubs.roster? home with
      | some roster =>
          if (foyer.visits.get? ⟨home, document, .job id⟩).isSome ∨ roster.room? document = none
          then some (.left home session)
          else none
      | none => none
  | _ => none

/-- What is told of a move. -/
def told? [Lease.Store S] (salon : Salon S B Ask Answer) : Move S B Fault → Option Event
  | .sit hub document session =>
      (salon.shown.get? ⟨hub, document, .session session⟩).map fun _ => .joined hub session
  | .step id _ => (salon.job? id).bind (left? salon.foyer)
  | .perform id failure now =>
      ((salon.job? id).bind salon.visits.hubs.operation?).bind fun operation =>
        called? salon.visits.hubs.site operation failure now
  | .fetch id count => (salon.visits.visit? id).map fun visit =>
      .fetched id ((salon.visits.outbox visit).queue.take count)
  | _ => none

/-- What is told of some moves. -/
def report [Lease.Store S] [Medium B Fault Ask Answer] (salon : Salon S B Ask Answer) :
    List (Move S B Fault) → List Event
  | [] => []
  | move :: moves => (salon.told? move).toList ++ (salon.after move).report moves

/-! ## What a move does at the foyer -/

/-- What happens at the foyer with a move, if it is one of the things that happen there. -/
def atFoyer (salon : Salon S B Ask Answer) : Move S B Fault → Option (Foyer.Move B Fault)
  | .come hub document => some (.hubs (.join hub document))
  | .sit hub document session => some (.sit hub document session)
  | .receive id arrival =>
      match salon.visits.visit? id with
      | some ⟨hub, document, session, .listening⟩ =>
          match arrival with
          | .binary bytes => some (.hubs (.frame hub document session bytes))
          | .other => none
          | .gone => some (.hubs (.leave hub document session))
      | _ => none
  | .step id moment => (salon.job? id).map fun job => .hubs (.step job moment)
  | .perform id failure now => (salon.job? id).map fun job => .hubs (.perform job failure now)
  | .resume id moment => (salon.job? id).map fun job => .hubs (.resume job moment)
  | .consult id failure => (salon.job? id).map fun job => .hubs (.consult job failure)
  | .hangUp id =>
      (salon.visits.visit? id).map fun visit => .hubs (.close visit.hub visit.session)
  | .look guest hub document => some (.visit guest hub document)
  | .quit guest hub document => some (.quit guest hub document)
  | .follow _ => none
  | .fetch _ _ => none
  | .site _ => none
  | .drift _ => none
  | .cache _ _ => none

/-- Nobody comes or sits down, and no job goes on, but with a move of its own. -/
theorem move_of_atFoyer {salon : Salon S B Ask Answer} {move : Move S B Fault}
    {happens : Foyer.Move B Fault} (does : salon.atFoyer move = some happens) :
    match happens with
    | .sit hub document session => move = .sit hub document session
    | .hubs (.join hub document) => move = .come hub document
    | .hubs (.step job moment) => ∃ id, move = .step id moment ∧ salon.job? id = some job
    | _ => True := by
  have onJob {id : VisitId} {move : JobId → Foyer.Move B Fault}
      (does : (salon.job? id).map move = some happens) :
      ∃ job, salon.job? id = some job ∧ move job = happens := Option.map_eq_some_iff.mp does
  cases move with
  | receive id arrival =>
      simp only [atFoyer] at does
      split at does
      · cases arrival with
        | binary bytes =>
            cases does
            trivial
        | other => cases does
        | gone =>
            cases does
            trivial
      · cases does
  | step id moment =>
      obtain ⟨job, busy, rfl⟩ := onJob does
      exact ⟨id, rfl, busy⟩
  | perform id failure now =>
      obtain ⟨job, busy, rfl⟩ := onJob does
      trivial
  | resume id moment =>
      obtain ⟨job, busy, rfl⟩ := onJob does
      trivial
  | consult id failure =>
      obtain ⟨job, busy, rfl⟩ := onJob does
      trivial
  | hangUp id =>
      obtain ⟨visit, found, rfl⟩ := Option.map_eq_some_iff.mp does
      trivial
  | come hub document =>
      cases does
      rfl
  | sit hub document session =>
      cases does
      rfl
  | look guest hub document =>
      cases does
      trivial
  | quit guest hub document =>
      cases does
      trivial
  | follow id => cases does
  | fetch id count => cases does
  | site change => cases does
  | drift change => cases does
  | cache hub change => cases does

/-- A visit that listens has a job begin with what arrives. -/
theorem foyer_receive_of_listening [Lease.Store S] [Medium B Fault Ask Answer]
    {salon : Salon S B Ask Answer} {id : VisitId} {visit : Visit} {arrival : Arrival}
    (found : salon.visits.visit? id = some visit) (listens : visit.phase = .listening) :
    (salon.after (.receive id arrival : Move S B Fault)).foyer =
      match arrival.work? visit.document visit.session with
      | some work => ⟨(salon.visits.hubs.begin visit.hub work).2, salon.shown⟩
      | none => salon.foyer := by
  obtain ⟨hub, document, session, phase⟩ := visit
  obtain rfl : phase = .listening := listens
  simp only [after, Visits.receive, found]
  cases arrival with
  | binary bytes => rfl
  | other => rfl
  | gone => rfl

theorem job_of_receive [Lease.Store S] [Medium B Fault Ask Answer]
    {salon : Salon S B Ask Answer} {id : VisitId} {visit : Visit} {arrival : Arrival}
    {work : Hub.Handling} (found : salon.visits.visit? id = some visit)
    (listens : visit.phase = .listening)
    (works : arrival.work? visit.document visit.session = some work) :
    (salon.after (.receive id arrival : Move S B Fault)).visits.hubs.jobs.get?
      salon.visits.hubs.nextJob = some ⟨visit.hub, work, none⟩ := by
  have begins : (salon.after (.receive id arrival : Move S B Fault)).foyer =
      ⟨(salon.visits.hubs.begin visit.hub work).2, salon.shown⟩ := by
    rw [foyer_receive_of_listening found listens, works]
  rw [show (salon.after (.receive id arrival : Move S B Fault)).visits.hubs = _ from
    congrArg Foyer.hubs begins]
  exact Table.get?_insert_self ..

/-- Foyers with the same jobs and visitors, whose rosters differ in outboxes at most. -/
structure Beside (foyer after : Foyer S B Ask Answer) : Prop where
  jobs : after.hubs.jobs = foyer.hubs.jobs
  nextJob : after.hubs.nextJob = foyer.hubs.nextJob
  visits : after.visits = foyer.visits
  rosters (hub : HubId) : after.hubs.roster? hub = foyer.hubs.roster? hub ∨
    ∃ roster session change, foyer.hubs.roster? hub = some roster ∧
      after.hubs.roster? hub = some (roster.modifyOutbox session change)

theorem Beside.refl (foyer : Foyer S B Ask Answer) : Beside foyer foyer :=
  ⟨rfl, rfl, rfl, fun _ => .inl rfl⟩

theorem beside_modifyRoster (foyer : Foyer S B Ask Answer) (id : HubId) (session : SessionId)
    (change : Outbox → Outbox) :
    Beside foyer ⟨foyer.hubs.modifyRoster id fun roster => roster.modifyOutbox session change,
      foyer.visits⟩ := by
  unfold Hubs.modifyRoster
  cases found : foyer.hubs.hubs.get? id with
  | none => exact .refl foyer
  | some hub =>
      refine ⟨rfl, rfl, rfl, fun other => ?_⟩
      dsimp only
      rw [Foyer.roster?_setHub]
      split
      · next same =>
          subst same
          exact .inr ⟨hub.roster, session, change, Foyer.roster?_of_found found, rfl⟩
      · exact .inl rfl

theorem beside_modifyCache (foyer : Foyer S B Ask Answer) (id : HubId) (change : Cache → Cache) :
    Beside foyer { foyer with hubs := foyer.hubs.modifyCache id change } := by
  unfold Hubs.modifyCache
  cases found : foyer.hubs.hubs.get? id with
  | none => exact .refl foyer
  | some hub =>
      refine ⟨rfl, rfl, rfl, fun other => .inl ?_⟩
      dsimp only
      rw [Foyer.roster?_setHub]
      split
      · next same =>
          subst same
          rw [Foyer.roster?_of_found found]
      · rfl

/-- To change the roster of a hub for its visits is to change it for the hubs. -/
theorem modifyRoster_eq (visits : Visits S B Ask Answer) (id : HubId) (change : Roster → Roster) :
    visits.modifyRoster id change = { visits with hubs := visits.hubs.modifyRoster id change } := by
  rw [Visits.modifyRoster, Hubs.modifyRoster, Table.modify]
  cases visits.hubs.hubs.get? id with
  | none => rfl
  | some hub => rfl

/-- The reply that a visit puts into its outbox as it goes on, with its hub and session. -/
def sends? (salon : Salon S B Ask Answer) (id : VisitId) : Option (HubId × SessionId × Frame) :=
  match salon.visits.visit? id with
  | some ⟨hub, document, session, .replying (reply :: rest)⟩ =>
      if (salon.visits.outbox ⟨hub, document, session, .replying (reply :: rest)⟩).accepts
      then some (hub, session, reply)
      else none
  | _ => none

/-- When a visit goes on, nothing happens at the foyer but that a reply is sent. -/
theorem foyer_follow (salon : Salon S B Ask Answer) (id : VisitId) :
    (⟨(salon.visits.follow id).hubs, salon.shown⟩ : Foyer S B Ask Answer) =
      match salon.sends? id with
      | some (hub, session, reply) =>
          ⟨salon.foyer.hubs.modifyRoster hub fun roster =>
            roster.modifyOutbox session (·.offer reply), salon.foyer.visits⟩
      | none => salon.foyer := by
  unfold Visits.follow sends?
  cases salon.visits.visit? id with
  | none => rfl
  | some visit =>
      obtain ⟨hub, document, session, phase⟩ := visit
      cases phase with
      | listening => rfl
      | «over» => rfl
      | handling job =>
          dsimp only
          cases salon.visits.hubs.result? job with
          | none => rfl
          | some outcome => cases outcome <;> rfl
      | leaving job =>
          dsimp only
          cases salon.visits.hubs.result? job with
          | none => rfl
          | some outcome => rfl
      | replying frames =>
          cases frames with
          | nil => rfl
          | cons reply rest =>
              simp only [Outbox.accepts, Bool.and_eq_true]
              split
              · next shut =>
                  rw [if_neg fun accepts => by simp [accepts.1] at shut]
                  rfl
              · next isOpen =>
                  split
                  · next room =>
                      rw [if_pos ⟨by simpa using isOpen, room⟩, modifyRoster_eq]
                      rfl
                  · next full =>
                      rw [if_neg fun accepts => full accepts.2]
                      rfl

theorem beside_follow (salon : Salon S B Ask Answer) (id : VisitId) :
    Beside salon.foyer ⟨(salon.visits.follow id).hubs, salon.shown⟩ := by
  rw [foyer_follow]
  cases salon.sends? id with
  | none => exact .refl _
  | some sent => exact beside_modifyRoster ..

/-- A move is one of the things that happen at the foyer, or leaves all but outboxes, locks,
archive and caches as they are. -/
theorem foyer_after [Lease.Store S] [Medium B Fault Ask Answer] (salon : Salon S B Ask Answer)
    (move : Move S B Fault) :
    match salon.atFoyer move with
    | some happens => (salon.after move).foyer = salon.foyer.after happens
    | none => Beside salon.foyer (salon.after move).foyer := by
  have onJob (id : VisitId) (change : JobId → Foyer S B Ask Answer → Foyer S B Ask Answer)
      (happens : JobId → Foyer.Move B Fault)
      (does : ∀ job, change job salon.foyer = salon.foyer.after (happens job)) :
      match (salon.job? id).map happens with
      | some happens => (salon.onJob id change).foyer = salon.foyer.after happens
      | none => Beside salon.foyer (salon.onJob id change).foyer := by
    unfold Salon.onJob
    cases salon.job? id with
    | none => exact .refl _
    | some job => exact does job
  cases move with
  | come hub document => rfl
  | sit hub document session =>
      simp only [atFoyer, after, sit, Foyer.after, Foyer.sit]
      rw [show salon.foyer.visits = salon.shown from rfl]
      cases salon.shown.get? ⟨hub, document, .session session⟩ <;> rfl
  | receive id arrival =>
      simp only [atFoyer, after, Visits.receive]
      cases salon.visits.visit? id with
      | none => exact .refl _
      | some visit =>
          obtain ⟨hub, document, session, phase⟩ := visit
          cases phase with
          | listening =>
              cases arrival with
              | binary bytes => rfl
              | other => exact .refl _
              | gone => rfl
          | _ => exact .refl _
  | follow id => exact beside_follow salon id
  | step id moment => exact onJob id _ _ fun _ => rfl
  | perform id failure now => exact onJob id _ _ fun _ => rfl
  | resume id moment => exact onJob id _ _ fun _ => rfl
  | consult id failure => exact onJob id _ _ fun _ => rfl
  | fetch id count =>
      simp only [atFoyer, after, onOutbox]
      cases salon.visits.visit? id with
      | none => exact .refl _
      | some visit => exact beside_modifyRoster ..
  | hangUp id =>
      simp only [atFoyer, after, onOutbox]
      cases salon.visits.visit? id with
      | none => exact .refl _
      | some visit => rfl
  | look guest hub document => rfl
  | quit guest hub document => rfl
  | site change => exact ⟨rfl, rfl, rfl, fun _ => .inl rfl⟩
  | drift change => exact ⟨rfl, rfl, rfl, fun _ => .inl rfl⟩
  | cache hub change => exact beside_modifyCache salon.foyer hub change

/-! ## Alone -/

/-- A visit that begins with nobody in between begins as at visits. -/
theorem arrive_alone [Lease.Store S] [Medium B Fault Ask Answer] {salon : Salon S B Ask Answer}
    {id : HubId} {document : DocumentId} {hub : Hub}
    (found : salon.visits.hubs.hubs.get? id = some hub) :
    let session := (hub.roster.enter document).1.1
    let arrived := (salon.after (.come id document : Move S B Fault)).after
      (.sit id document session : Move S B Fault)
    let visits := (salon.visits.arrive id document).2
    arrived.visits.visits = visits.visits ∧ arrived.visits.nextVisit = visits.nextVisit ∧
      arrived.visits.hubs.roster? id = visits.hubs.roster? id := by
  intro session arrived visits
  have alone := @Foyer.join_alone _ _ _ _ salon.foyer id document hub found
  have shown : (salon.after (.come id document : Move S B Fault)).shown.get?
      ⟨id, document, .session session⟩ = some (hub.roster.enter document).1.2 := by
    have held : salon.foyer.hubs.hubs.get? id = some hub := found
    simp only [after, setFoyer, Foyer.arrive, held]
    exact Table.get?_insert_self ..
  have joined : visits = ⟨(salon.visits.hubs.join id document).2,
      salon.visits.visits.insert salon.visits.nextVisit ⟨id, document, session, .listening⟩,
      salon.visits.nextVisit + 1⟩ := by
    simp only [visits, Visits.arrive, Hubs.join, found]
    rfl
  have seated : arrived.visits = ⟨((salon.foyer.arrive id document).sit id document session).hubs,
      salon.visits.visits.insert salon.visits.nextVisit ⟨id, document, session, .listening⟩,
      salon.visits.nextVisit + 1⟩ := by
    simp only [arrived, Salon.after, Salon.sit] at shown ⊢
    rw [shown]
    rfl
  rw [joined, seated]
  exact ⟨rfl, rfl, alone⟩

end Salon

end Coedit
