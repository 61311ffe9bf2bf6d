import Coedit.Proofs.Hub.Passing
import Coedit.Proofs.Hub.Queues
import Coedit.Proofs.UpdateLog.Reads

/-!
# Deliveries

Nothing falls between what a session is told and what it is sent later.  If an update is
committed before the section in which the session is told the log, it is in that log; if
it is committed afterwards, it is passed on later still, and the session has long been
seated.
-/

namespace Coedit

namespace Hubs

open Section (unstored)

variable {initial stored : Option Snapshot} {events : List Event} {desks : HubId → Desk}
  {update : Bytes} {leaves : Option Snapshot → Snapshot → Option Snapshot → Prop}

/-! ## Histories with commits -/

/-- A section that has merged an update has loaded a log, and hands the update out. -/
theorem merged_of_does {desk after : Desk} {saved : Option Snapshot} {handed : Option Bytes}
    (does : Section.Does UpdateLog.engine leaves desk stored (.merge update) (.value handed) after
      saved) (full : update ≠ []) :
    handed = some update ∧ ∃ loading cell loaded found,
      Section.Loads desk stored loading cell loaded ∧
      UpdateLog.records loaded.content = .ok found := by
  cases does with
  | unchanged loads verdict =>
      rcases UpdateLog.append_eq_ok (UpdateLog.engine_merged verdict) with
        ⟨empty, -⟩ | ⟨-, -, equal⟩
      · exact absurd empty full
      · cases congrArg Merged.broadcast equal
  | committed loads verdict changes now =>
      have merged := UpdateLog.engine_merged verdict
      obtain ⟨found, parsed⟩ := UpdateLog.records_of_append merged
      rcases UpdateLog.append_eq_ok merged with ⟨empty, -⟩ | ⟨-, -, equal⟩
      · exact absurd empty full
      · exact ⟨by rw [equal], _, _, _, found, loads, parsed⟩

theorem History.handed {id : JobId} {hub : HubId} {document : DocumentId} {handed : Option Bytes}
    (history : History UpdateLog.engine leaves initial
      (⟨id, hub, document, .merge update, .value handed⟩ :: events) desks stored)
    (full : update ≠ []) : handed = some update := by
  cases history with
  | next history does => exact (merged_of_does does full).1

/-- Where something was committed, what was stored at first is a log. -/
theorem History.wellFormed (history : History UpdateLog.engine leaves initial events desks stored)
    (tears : Tears False leaves) (busy : commits events ≠ []) :
    ∃ found, UpdateLog.records (initial.getD unstored).content = .ok found := by
  induction history with
  | start => exact absurd rfl busy
  | @next events desks stored after event desk history does ih =>
      by_cases first : commits events = []
      · have committed : event.committed = true := by
          by_contra idle
          rw [commits_of_not_committed (by simpa using idle)] at busy
          exact busy first
        obtain ⟨update, carries⟩ := update?_of_committed committed
        obtain ⟨merges, full⟩ := update?_eq_some.mp carries
        obtain ⟨id, hub, document, task, ending⟩ := event
        cases merges
        cases ending with
        | value handed =>
            obtain ⟨-, loading, cell, loaded, found, loads, parsed⟩ := merged_of_does does full
            obtain ⟨-, -, kept, composed⟩ := (history.journal tears).of_loads loads
            have content := composed.eq_take
            simp only [first, List.take_nil, updates, List.filterMap_nil, UpdateLog.encode,
              List.flatMap_nil, List.append_nil] at content
            rw [content] at parsed
            exact ⟨found, parsed⟩
        | error error => cases committed
        | panic message => cases committed
      · exact ih first

/-- What was committed is a record of what is stored. -/
theorem History.record_of_commit
    (history : History UpdateLog.engine leaves initial events desks stored)
    (tears : Tears False leaves) {commit : Event} (member : commit ∈ commits events)
    (carries : commit.update? = some update) :
    ∃ found, UpdateLog.records (stored.getD unstored).content = .ok found ∧ update ∈ found := by
  obtain ⟨base, parsed⟩ := history.wellFormed tears (List.ne_nil_of_mem member)
  obtain ⟨kept, composed⟩ := (history.journal tears).content
  refine ⟨_, composed.records parsed, List.mem_append_right _ ?_⟩
  have within : commit ∈ kept := by
    have complete := composed.complete
    rw [List.take_length] at complete
    rw [← complete] at member
    exact (List.mem_filter.mp member).1
  exact List.mem_filterMap.mpr ⟨commit, within, carries⟩

section

variable {S B Fault Ask : Type} {Answer : Ask → Type} [Lease.Store S] [Lease.Lawful S]
  [Medium B Fault Ask Answer] {archive : Archive Ask Answer} {keeping : archive.Keeping B Fault}
  {first : DocumentId → keeping.Place} {start hubs before : Hubs S B Ask Answer}
  {path early : List (Hubs S B Ask Answer × Move B Fault)} {document : DocumentId}

/-- What was merged before a session was told the log is a record of it. -/
theorem Course.record_of_merged (course : Course keeping start path hubs)
    (starts : start.Starts keeping UpdateLog.engine first) (whole : keeping.IsWhole)
    (keeps : keeping.Keeps (first document) initial)
    (fitting : Fitting keeping.Fits UpdateLog.engine keeping.Leaves initial
      (eventsOf document path))
    {event : Event} (home : event.document = document) (endsAt : EndsAt path before early event)
    {sent : JobId} {hub : HubId} {handed : Option Bytes}
    (merged : ⟨sent, hub, document, .merge update, .value handed⟩ ∈ Hubs.events early)
    (full : update ≠ []) :
    ∃ records, UpdateLog.records ((keeping.stored before.medium document).getD unstored).content =
        .ok records ∧ update ∈ records := by
  obtain ⟨desks, history⟩ := course.history_at starts keeps fitting home endsAt
  have carries : Event.update? ⟨sent, hub, document, .merge update, .value handed⟩ = some update :=
    update?_eq_some.mpr ⟨rfl, full⟩
  refine history.record_of_commit (tears_of_whole whole) ?_ carries
  refine mem_commits.mpr ⟨List.mem_cons_of_mem _ (mem_eventsOf.mpr ⟨merged, rfl⟩), ?_⟩
  simp [Event.committed, carries]

end

end Hubs

namespace Foyer

open Section (unstored)

variable {S B Fault Ask : Type} {Answer : Ask → Type} {foyer : Foyer S B Ask Answer}
  {hub : HubId} {document : DocumentId} {session sender : SessionId} {frame : Frame} {id : JobId}

/-! ## Offers -/

/-- The outbox of a session. -/
def outbox? (foyer : Foyer S B Ask Answer) (hub : HubId) (session : SessionId) : Option Outbox :=
  (foyer.hubs.roster? hub).bind fun roster => roster.outboxes.get? session

/-- An outbox to which a frame is offered takes it unless it is full or closed. -/
def offered (outbox : Outbox) (frame : Frame) : Outbox :=
  if outbox.isOpen = true ∧ outbox.queue.length < Outbox.capacity then
    { outbox with queue := outbox.queue ++ [frame] }
  else outbox

theorem offer_eq (outbox : Outbox) : outbox.offer frame = offered outbox frame := by
  simp only [Outbox.offer, Outbox.accepts, Outbox.hasRoom, offered, Bool.and_eq_true,
    decide_eq_true_eq]

theorem Seated.exists_outbox (seated : foyer.Seated hub document session) :
    ∃ outbox, foyer.outbox? hub session = some outbox := by
  obtain ⟨roster, rosterFound, room, -, -, reached⟩ := seated
  obtain ⟨outbox, boxFound⟩ := Option.isSome_iff_exists.mp reached
  exact ⟨outbox, by rw [outbox?, rosterFound, Option.bind_some, boxFound]⟩

/-- If a job is done with a step that began with a frame to pass on, it passes the frame on to
all who can be reached. -/
theorem Seated.passesTo (seated : foyer.Seated hub document session) (sound : foyer.Sound)
    {next : Nat → Hub.Handling} (apart : session ≠ sender)
    (found : foyer.hubs.jobs.get? id =
      some ⟨hub, .ask (.broadcast document sender frame) next, none⟩) {moment : Lock.Moment}
    {outcome : Hub.Outcome} (result : (foyer.step id moment).hubs.result? id = some outcome) :
    foyer.PassesTo id hub document sender session frame := by
  obtain ⟨roster, rosterFound, room, here, sits, -⟩ := seated
  refine ⟨⟨next, found⟩, ⟨roster, room, rosterFound, ?_, sits⟩, apart⟩
  cases visiting : foyer.visits.get? ⟨hub, document, .job id⟩ with
  | none =>
      -- The room is only looked up with this step, and the job is not done.
      obtain ⟨held, hubFound, rfl⟩ := Option.map_eq_some_iff.mp rosterFound
      simp only [step, found, attend, hubFound, visiting, here, Hubs.result?] at result
      cases result
  | some shown =>
      obtain ⟨roster', found', here', -⟩ := sound.visits visiting
      cases rosterFound.symm.trans found'
      exact here'.symm.trans here

/-- Whoever a frame is passed to is offered it. -/
theorem PassesTo.offered (passes : foyer.PassesTo id hub document sender session frame)
    {outbox : Outbox} (boxFound : foyer.outbox? hub session = some outbox)
    (moment : Lock.Moment) :
    (foyer.step id moment).outbox? hub session = some (Foyer.offered outbox frame) := by
  obtain ⟨⟨next, found⟩, ⟨roster, room, rosterFound, visiting, sits⟩, apart⟩ := passes
  obtain ⟨held, hubFound, rfl⟩ := Option.map_eq_some_iff.mp rosterFound
  rw [outbox?, rosterFound, Option.bind_some] at boxFound
  simp only [step, found, attend, hubFound, visiting, outbox?]
  have after : ((foyer.hubs.setHub hub { held with
      roster := (held.roster.pass room sender frame).2 }).setJob id
      ⟨hub, next (held.roster.pass room sender frame).1, none⟩).roster? hub =
      some (held.roster.pass room sender frame).2 :=
    (roster?_setHub hub).trans (if_pos rfl)
  rw [after, Option.bind_some, Roster.outbox_pass, if_pos ⟨sits, apart⟩, boxFound,
    Option.map_some, offer_eq]

section

variable [Lease.Store S] [Lease.Lawful S] [Medium B Fault Ask Answer]
  {archive : Archive Ask Answer} {keeping : archive.Keeping B Fault}
  {first : DocumentId → keeping.Place} {start : Foyer S B Ask Answer}
  {path late early : List (Foyer S B Ask Answer × Move B Fault)} {update : Bytes}

/-- Where on a run a session has sent a frame. -/
def SentAt (path early : List (Foyer S B Ask Answer × Move B Fault)) (hub : HubId)
    (document : DocumentId) (session : SessionId) (frame : Frame) (id : JobId) : Prop :=
  ∃ late begun bytes, path = late ++ (begun, .hubs (.frame hub document session bytes)) :: early ∧
    begun.hubs.nextJob = id ∧ Frame.decode bytes = .ok frame

/-- Whether a job has passed a frame on to a session, whose outbox took it unless it was
full or closed at that moment. -/
def Offered (path : List (Foyer S B Ask Answer × Move B Fault)) (hub : HubId)
    (document : DocumentId) (sender session : SessionId) (frame : Frame) (id : JobId) : Prop :=
  ∃ late before moment early outbox,
    path = late ++ (before, .hubs (.step id moment)) :: early ∧
      before.PassesTo id hub document sender session frame ∧
      before.outbox? hub session = some outbox ∧
      (before.after (.hubs (.step id moment) : Move B Fault)).outbox? hub session =
        some (Foyer.offered outbox frame)

/-- A job that is done at the end of a run was done at one of its moves. -/
theorem Run.finished {at' : Foyer S B Ask Answer × Move B Fault} {outcome : Hub.Outcome}
    (run : Run keeping start (late ++ at' :: early) foyer)
    (unfinished : (at'.1.after at'.2).hubs.result? id ≠ some outcome)
    (result : foyer.hubs.result? id = some outcome) :
    ∃ later before move between, late = later ++ (before, move) :: between ∧
      before.hubs.result? id ≠ some outcome ∧
      (before.after move).hubs.result? id = some outcome := by
  generalize equal : late ++ at' :: early = path at run
  induction run generalizing late with
  | start => simp at equal
  | @move path before move run permitted ih =>
      cases late with
      | nil =>
          cases equal
          exact absurd result unfinished
      | cons last late =>
          cases equal
          by_cases done : before.hubs.result? id = some outcome
          · obtain ⟨later, before', move', between, rfl, undone, finished⟩ := ih done rfl
            exact ⟨(before, move) :: later, before', move', between, rfl, undone, finished⟩
          · exact ⟨[], before, move, late, rfl, done, result⟩

omit [Lease.Store S] [Lease.Lawful S] [Medium B Fault Ask Answer] in
theorem SentAt.brings (sent : SentAt path early hub document session frame id) :
    Hubs.Brings (atHubs path) id hub document frame := by
  obtain ⟨late, begun, bytes, rfl, number, decoded⟩ := sent
  refine ⟨begun.hubs, session, bytes, ?_, number, decoded⟩
  simp [atHubs, Move.atHubs]

omit [Lease.Store S] [Lease.Lawful S] [Medium B Fault Ask Answer] in
theorem SentAt.beginsAt (sent : SentAt path early hub document session frame id) :
    ∃ begun, Hubs.BeginsAt (atHubs path) begun (atHubs early) id := by
  obtain ⟨late, begun, bytes, rfl, number, -⟩ := sent
  exact ⟨begun.hubs, atHubs late, .frame hub document session bytes, by simp [atHubs, Move.atHubs],
    rfl, number⟩

omit [Lease.Store S] [Lease.Lawful S] [Medium B Fault Ask Answer] in
theorem SentAt.suffix (sent : SentAt path early hub document session frame id) :
    early <:+ path := by
  obtain ⟨late, begun, bytes, rfl, -⟩ := sent
  exact (List.suffix_cons ..).trans (List.suffix_append ..)

/-- A job that was sent an update and has reported no error has passed the update on,
after its section had ended. -/
theorem Run.passed (run : Run keeping start path foyer)
    (starts : start.Starts keeping UpdateLog.engine first) {initial : Option Snapshot}
    (keeps : keeping.Keeps (first document) initial)
    (fitting : Hubs.Fitting keeping.Fits UpdateLog.engine keeping.Leaves initial
      (Hubs.eventsOf document (atHubs path)))
    (sent : SentAt path early hub document sender frame id)
    (merges : frame.task? = some (.merge update)) (full : update ≠ []) {replies : List Frame}
    (result : foyer.hubs.result? id = some (.ok replies)) :
    ∃ later before moment between, path = later ++ (before, .hubs (.step id moment)) :: between ∧
      before.hubs.jobs.get? id = some ⟨hub,
        .ask (.broadcast document sender (.sync .update update)) (fun _ => .done (.ok [])), none⟩ ∧
      ⟨id, hub, document, .merge update, .value (some update)⟩ ∈ Hubs.events (atHubs between) ∧
      (before.step id moment).hubs.result? id = some (.ok replies) := by
  obtain ⟨late, begun, bytes, rfl, rfl, decoded⟩ := sent
  have work : Hub.handleBytes document sender bytes = Hub.merging document sender update := by
    rw [Hub.handleBytes, decoded]
    exact Hub.handle_of_merge document sender merges
  have unfinished : (begun.after (.hubs (.frame hub document sender bytes) :
      Move B Fault)).hubs.result? begun.hubs.nextJob ≠ some (.ok replies) := by
    simp only [after, Hubs.after, Hubs.begin, Hubs.result?, Table.get?_insert_self, work,
      Hub.merging, Hub.inSection]
    simp
  obtain ⟨later, before, move, between, rfl, undone, finished⟩ := run.finished unfinished result
  have split : later ++ (before, move) :: between ++
      (begun, .hubs (.frame hub document sender bytes)) :: early =
      later ++ (before, move) ::
        (between ++ (begun, .hubs (.frame hub document sender bytes)) :: early) := by
    simp
  obtain ⟨earlier, permitted⟩ := run.split split
  have suffix : between ++ (begun, .hubs (.frame hub document sender bytes)) :: early <:+
      later ++ (before, move) :: between ++
        (begun, .hubs (.frame hub document sender bytes)) :: early :=
    split ▸ (List.suffix_cons ..).trans (List.suffix_append ..)
  have fittingThen := fitting.of_suffix (Hubs.eventsOf_suffix (atHubs_suffix suffix))
  have begins : (begun.hubs, Hubs.Move.frame hub document sender bytes) ∈
      atHubs (between ++ (begun, .hubs (.frame hub document sender bytes)) :: early) := by
    simp [atHubs, Move.atHubs]
  have course := earlier.course
  have traced := course.traced starts.hubs
  obtain ⟨job, found, rfl, stage⟩ := traced.comes begins rfl
  rw [work] at stage
  have bound := (course.orderly starts.hubs).numbered found
  have handed : ∀ {handed : Option Bytes}, ⟨begun.hubs.nextJob, job.hub, document, .merge update,
      .value handed⟩ ∈ Hubs.events (atHubs
        (between ++ (begun, .hubs (.frame job.hub document sender bytes)) :: early)) →
      handed = some update := by
    intro handed member
    obtain ⟨before', early', endsAt⟩ := Hubs.exists_endsAt member
    obtain ⟨desks, history⟩ := course.history_at starts.hubs keeps fittingThen rfl endsAt
    exact history.handed full
  have effect : before.hubs.Effect move.atHubs (before.after move).hubs := effect_after move
  rcases Hubs.finish_of_effect effect finished with done | finish
  · exact absurd done undone
  · rcases stage.passes found finish (Nat.ne_of_gt bound) with
      member | ⟨moment, update', step, found, member⟩
    · cases handed member
    · cases handed member
      cases move with
      | hubs move =>
          cases step
          exact ⟨later, before, moment, _, split, found, member, finished⟩
      | _ => cases step

omit [Lease.Store S] [Lease.Lawful S] [Medium B Fault Ask Answer] in
theorem suffix_of_atHubs {later : List (Foyer S B Ask Answer × Move B Fault)}
    (left : early <:+ path) (right : later <:+ path) (within : atHubs early <:+ atHubs later) :
    early <:+ later := by
  refine List.suffix_of_suffix_length_le left right ?_
  have short := within.length_le
  rwa [atHubs, atHubs, List.length_map, List.length_map] at short

/-- A session misses nothing.  Let it have joined a document before it asks for the log,
and not have left it, and let another session send an update for the document.  If neither
is told of an error, and sixty-four bits hold the versions of the document, then the update
is a record of the log that the session is told, or it was passed on to the session, whose
outbox took it unless it was full or closed at that moment. -/
theorem Run.nothing_missed (run : Run keeping start path foyer)
    (starts : start.Starts keeping UpdateLog.engine first) (whole : keeping.IsWhole)
    (wide : keeping.IsWide) {initial : Option Snapshot}
    (keeps : keeping.Keeps (first document) initial)
    (bound : (initial.getD unstored).version +
      (Hubs.commits (Hubs.eventsOf document (atHubs path))).length < UInt64.size)
    {asked sent : JobId} {request : Frame} {replies replies' : List Frame}
    {early' : List (Foyer S B Ask Answer × Move B Fault)}
    (asks : SentAt path early hub document session request asked)
    (requests : request.kind = .sync .request) (joined : HasJoined early hub document session)
    (stays : ¬ HasLeft path hub document session)
    (sends : SentAt path early' hub document sender frame sent) (apart : session ≠ sender)
    (merges : frame.task? = some (.merge update)) (full : update ≠ [])
    (answered : foyer.hubs.result? asked = some (.ok replies))
    (acknowledged : foyer.hubs.result? sent = some (.ok replies')) :
    ∃ payload, replies = [.sync .answer payload] ∧
      ((∃ records, UpdateLog.records payload = .ok records ∧ update ∈ records) ∨
        Offered path hub document sender session (.sync .update update) sent) := by
  have course := run.course
  have fitting := Hubs.fitting_of_wide whole wide bound
  obtain ⟨reading, past, payload, readAt, equal, -, stored⟩ :=
    course.read starts.hubs whole keeps fitting asks.brings requests answered
  refine ⟨payload, equal, ?_⟩
  obtain ⟨later, before, moment, between, split, passing, member, finished⟩ :=
    run.passed starts keeps fitting sends merges full acknowledged
  have atHubsSplit : atHubs path =
      atHubs later ++ (before.hubs, .step sent moment) :: atHubs between := by
    rw [split]
    simp [atHubs, Move.atHubs]
  by_cases merged : (⟨sent, hub, document, .merge update, .value (some update)⟩ : Hubs.Event) ∈
      Hubs.events past
  · left
    rw [stored]
    exact course.record_of_merged starts.hubs whole keeps fitting rfl readAt merged full
  · right
    obtain ⟨begun, beginsAt⟩ := asks.beginsAt
    obtain ⟨move, started⟩ := course.begins_first starts.hubs readAt beginsAt
    obtain ⟨lateRead, readMove, readEqual, -⟩ := readAt
    -- The section of the update has not ended where the log is read, so its job goes on later.
    have readFirst : past <:+ atHubs between := by
      have left : past <:+ atHubs path :=
        readEqual ▸ (List.suffix_cons ..).trans (List.suffix_append ..)
      have right : atHubs between <:+ atHubs path :=
        atHubsSplit ▸ (List.suffix_cons ..).trans (List.suffix_append ..)
      rcases List.suffix_or_suffix_of_suffix left right with within | beyond
      · exact within
      · obtain ⟨event, ended, ends⟩ := List.mem_filterMap.mp member
        exact absurd (List.mem_filterMap.mpr ⟨event, beyond.subset ended, ends⟩) merged
    have within : early <:+ between := by
      have left : early <:+ path := asks.suffix
      have right : between <:+ path :=
        split ▸ (List.suffix_cons ..).trans (List.suffix_append ..)
      exact suffix_of_atHubs left right (((List.suffix_cons ..).trans started).trans readFirst)
    obtain ⟨earlier, permitted⟩ := run.split split
    have seated : before.Seated hub document session := by
      refine earlier.seated starts ?_ ?_
      · obtain ⟨sat, room, member, visiting⟩ := joined
        exact ⟨sat, room, within.subset member, visiting⟩
      · rintro ⟨left, member⟩
        refine stays ⟨left, ?_⟩
        rw [split]
        exact List.mem_append_right _ (List.mem_cons_of_mem _ member)
    obtain ⟨outbox, boxFound⟩ := seated.exists_outbox
    have passes := seated.passesTo (earlier.sound starts) apart passing finished
    exact ⟨later, before, moment, between, outbox, split, passes, boxFound,
      passes.offered boxFound moment⟩

/-! ## A session that asks while another sends -/

open Archive (Shelf)

/-- A foyer with two hubs that share a memory of leases and a shelf. -/
def shelved : Foyer Lease.Memory Shelf Shelf.Call Shelf.Call.Answer := ⟨Hubs.shelved, .empty⟩

theorem shelved_uses {id : HubId} {hub : Hub} (found : Hubs.shelved.hubs.get? id = some hub) :
    hub.engine = UpdateLog.engine ∧ hub.cache = .empty ∧ hub.roster = .empty := by
  simp only [Hubs.shelved, Hubs.addHub, Table.get?_insert] at found
  split at found
  · cases found
    exact ⟨rfl, rfl, rfl⟩
  · split at found
    · cases found
      exact ⟨rfl, rfl, rfl⟩
    · cases found

theorem shelved_starts : shelved.Starts Shelf.keeping UpdateLog.engine fun _ => none := by
  constructor
  · refine ⟨rfl, rfl, rfl, rfl, ?_, fun _ => rfl⟩
    intro id hub found
    exact ⟨(shelved_uses found).1, (shelved_uses found).2.1⟩
  · intro id roster found
    obtain ⟨hub, hubFound, rfl⟩ := Option.map_eq_some_iff.mp found
    rw [(shelved_uses hubFound).2.2]
    exact Roster.sound_empty
  · rfl

/-- Two sessions join a document. -/
def joining : List (Move Shelf ArchiveError) :=
  [.hubs (.join 0 ⟨"w", "d"⟩), .sit 0 ⟨"w", "d"⟩ 1, .hubs (.join 0 ⟨"w", "d"⟩),
    .sit 0 ⟨"w", "d"⟩ 2]

/-- The first is told the log, which is empty. -/
def reading : List (Move Shelf ArchiveError) :=
  (Hubs.enters 0 "first" ++
    [Hubs.goesOn 0, .consult 0 none, Hubs.goesOn 0, Hubs.goesOn 0]).map .hubs

/-- The other merges an update, and passes it on while a third comes in. -/
def passing : List (Move Shelf ArchiveError) :=
  (Hubs.givesBack 0 ++ Hubs.enters 1 "second" ++
    [Hubs.goesOn 1, Hubs.goesOn 1, .consult 1 none, Hubs.goesOn 1, .consult 1 none,
      Hubs.goesOn 1] ++ Hubs.givesBack 1 ++
    [Hubs.goesOn 1, .join 0 ⟨"w", "d"⟩, Hubs.goesOn 1]).map .hubs

/-- The first session asks before the update is merged. -/
def crossing : List (Move Shelf ArchiveError) :=
  joining ++ .hubs (.frame 0 ⟨"w", "d"⟩ 1 [0, 0]) ::
    (.hubs (.frame 0 ⟨"w", "d"⟩ 2 [0, 2, 7]) :: reading ++ passing)

set_option maxRecDepth 2000 in
/-- The first session is told an empty log, and the update is offered to it. -/
theorem Run.nothing_missed_crossing :
    (shelved.afterAll crossing).hubs.result? 0 = some (.ok [.sync .answer []]) ∧
      (shelved.afterAll crossing).hubs.result? 1 = some (.ok []) ∧
      Offered (shelved.trail crossing []) 0 ⟨"w", "d"⟩ 2 1 (.sync .update [7]) 1 := by
  have permitted : shelved.PermitsAll Shelf.keeping crossing := by decide +kernel
  have told : (shelved.afterAll crossing).hubs.result? 0 =
      some (.ok [.sync .answer []]) := by with_unfolding_all rfl
  have merged : (shelved.afterAll crossing).hubs.result? 1 = some (.ok []) := by
    with_unfolding_all rfl
  have asks : SentAt (shelved.trail crossing []) (shelved.trail joining []) 0 ⟨"w", "d"⟩ 1
      ⟨.sync .request, []⟩ 0 := by
    obtain ⟨late, equal⟩ := trail_eq shelved joining
      (.hubs (.frame 0 ⟨"w", "d"⟩ 2 [0, 2, 7]) :: reading ++ passing)
      (.hubs (.frame 0 ⟨"w", "d"⟩ 1 [0, 0])) []
    exact ⟨late, _, [0, 0], equal, by decide +kernel, rfl⟩
  have sends : SentAt (shelved.trail crossing [])
      (shelved.trail (joining ++ [.hubs (.frame 0 ⟨"w", "d"⟩ 1 [0, 0])]) []) 0 ⟨"w", "d"⟩ 2
      ⟨.sync .update, [7]⟩ 1 := by
    obtain ⟨late, equal⟩ := trail_eq shelved
      (joining ++ [.hubs (.frame 0 ⟨"w", "d"⟩ 1 [0, 0])]) (reading ++ passing)
      (.hubs (.frame 0 ⟨"w", "d"⟩ 2 [0, 2, 7])) []
    exact ⟨late, _, [0, 2, 7], equal, by decide +kernel, rfl⟩
  have joined : HasJoined (shelved.trail joining []) 0 ⟨"w", "d"⟩ 1 := by
    obtain ⟨late, equal⟩ := trail_eq shelved (joining.take 1) (joining.drop 2)
      (.sit 0 ⟨"w", "d"⟩ 1) []
    have member : (shelved.afterAll (joining.take 1), Move.sit 0 ⟨"w", "d"⟩ 1) ∈
        shelved.trail (joining.take 1 ++ .sit 0 ⟨"w", "d"⟩ 1 :: joining.drop 2) [] :=
      equal ▸ List.mem_append_right _ (List.mem_cons_self ..)
    exact ⟨_, 0, member, by decide +kernel⟩
  have stays : ¬ HasLeft (shelved.trail crossing []) 0 ⟨"w", "d"⟩ 1 := by
    rintro ⟨before, member⟩
    have moves := mem_of_mem_trail member
    simp [crossing, joining, reading, passing, Hubs.enters, Hubs.givesBack, Hubs.goesOn] at moves
  have count : (Hubs.commits (Hubs.eventsOf ⟨"w", "d"⟩
      (atHubs (shelved.trail crossing [])))).length = 1 := by decide +kernel
  have bound : ((none : Option Snapshot).getD unstored).version + (Hubs.commits
      (Hubs.eventsOf ⟨"w", "d"⟩ (atHubs (shelved.trail crossing [])))).length < UInt64.size := by
    rw [count]
    decide
  refine ⟨told, merged, ?_⟩
  obtain ⟨payload, replies, found | offered⟩ :=
    (Run.start.of_moves permitted).nothing_missed shelved_starts Shelf.keeping_isWhole
      Shelf.keeping_isWide rfl bound asks rfl joined stays sends (by decide) rfl (by decide) told
      merged
  · cases replies
    obtain ⟨records, parsed, member⟩ := found
    rw [UpdateLog.records] at parsed
    cases parsed
    cases member
  · exact offered

end

end Foyer

end Coedit
