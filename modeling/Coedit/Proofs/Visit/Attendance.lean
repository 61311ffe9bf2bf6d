import Coedit.Proofs.Hub.Queues
import Coedit.Proofs.Visit.Phases

/-!
# Attendance

Each visit has a session of its own, which joins once and leaves once: it joins as the visit
begins, and leaves after the connection of the visit is gone.  Nobody sits at a document
but sessions whose visits have not left.
-/

namespace Coedit

namespace Salon

variable {S B Fault Ask : Type} {Answer : Ask → Type} {salon : Salon S B Ask Answer}

/-! ## Foyers of salons -/

theorem Beside.sound {foyer after : Foyer S B Ask Answer} (beside : Beside foyer after)
    (sound : foyer.Sound) : after.Sound := by
  constructor
  · intro hub roster found
    rcases beside.rosters hub with same | ⟨before, session, change, found', changed⟩
    · exact sound.rosters (same.symm.trans found)
    · rw [changed] at found
      cases found
      exact (sound.rosters found').changed (.outbox session change)
  · intro visitor room visiting
    rw [beside.visits] at visiting
    obtain ⟨roster, found, here, reached⟩ := sound.visits visiting
    rcases beside.rosters visitor.hub with same | ⟨before, session, change, found', changed⟩
    · exact ⟨roster, same.trans found, here, reached⟩
    · cases found.symm.trans found'
      exact ⟨_, changed, here, fun other name =>
        Roster.outbox_changed (.outbox session change) (reached other name)⟩

section

variable [Lease.Store S] [Medium B Fault Ask Answer] {move : Move S B Fault} {hub : HubId}
  {document : DocumentId} {session : SessionId} {id : VisitId} {visit : Visit} {room : RoomId}

theorem foyerSound_after (sound : salon.foyer.Sound) (move : Move S B Fault) :
    (salon.after move).foyer.Sound := by
  have happens := foyer_after salon move
  cases does : salon.atFoyer move with
  | some at' =>
      rw [does] at happens
      rw [happens]
      exact sound.after at'
  | none =>
      rw [does] at happens
      exact happens.sound sound

/-- The roster of a hub stays as it is or changes in one step, and nobody sits down but with
his own move. -/
theorem roster_after (salon : Salon S B Ask Answer) (move : Move S B Fault) (hub : HubId) :
    (salon.after move).foyer.hubs.roster? hub = salon.foyer.hubs.roster? hub ∨
      ∃ roster change, salon.foyer.hubs.roster? hub = some roster ∧
        (salon.after move).foyer.hubs.roster? hub = some (roster.changed change) ∧
        ∀ room session, change = .sat room session → ∃ document,
          move = .sit hub document session ∧
            salon.shown.get? ⟨hub, document, .session session⟩ = some room := by
  have happens := foyer_after salon move
  cases does : salon.atFoyer move with
  | some at' =>
      rw [does] at happens
      rw [happens]
      rcases Foyer.turns_after salon.foyer at' hub with
        same | ⟨roster, change, found, after, causes⟩
      · exact .inl same
      · refine .inr ⟨roster, change, found, after, ?_⟩
        rintro room session rfl
        obtain ⟨document, rfl, looked⟩ := causes
        exact ⟨document, move_of_atFoyer does, looked⟩
  | none =>
      rw [does] at happens
      rcases happens.rosters hub with same | ⟨roster, session, change, found, after⟩
      · exact .inl same
      · exact .inr ⟨roster, .outbox session change, found, after, nofun⟩

theorem nextSession_le_after {roster : Roster}
    (found : salon.foyer.hubs.roster? hub = some roster) (move : Move S B Fault) :
    ∃ after, (salon.after move).foyer.hubs.roster? hub = some after ∧
      roster.nextSession ≤ after.nextSession := by
  rcases roster_after salon move hub with same | ⟨before, change, found', after, -⟩
  · exact ⟨roster, same.trans found, Nat.le_refl _⟩
  · cases found.symm.trans found'
    exact ⟨_, after, (Roster.nextSession_changed change).1⟩

/-! ## Sessions of visits -/

/-- Whether a session has had its number given to it. -/
def Numbered (salon : Salon S B Ask Answer) (hub : HubId) (session : SessionId) : Prop :=
  ∃ roster, salon.foyer.hubs.roster? hub = some roster ∧ session < roster.nextSession

theorem Numbered.after (numbered : salon.Numbered hub session) (move : Move S B Fault) :
    (salon.after move).Numbered hub session := by
  obtain ⟨roster, found, bound⟩ := numbered
  obtain ⟨after, found', grows⟩ := nextSession_le_after found move
  exact ⟨after, found', Nat.lt_of_lt_of_le bound grows⟩

omit [Lease.Store S] [Medium B Fault Ask Answer] in
theorem Numbered.ne_next (numbered : salon.Numbered hub session) {roster : Roster}
    (found : salon.foyer.hubs.roster? hub = some roster) : roster.nextSession ≠ session := by
  obtain ⟨roster', found', bound⟩ := numbered
  cases found.symm.trans found'
  exact Nat.ne_of_gt bound

/-- Visits have sessions of their own, and so have those who are still to sit down. -/
structure Seating (salon : Salon S B Ask Answer) : Prop where
  foyer : salon.foyer.Sound
  hosted {id : VisitId} {visit : Visit} (found : salon.visits.visit? id = some visit) :
    salon.Numbered visit.hub visit.session
  awaited {hub : HubId} {document : DocumentId} {session : SessionId} {room : RoomId}
    (looked : salon.shown.get? ⟨hub, document, .session session⟩ = some room) :
    salon.Numbered hub session
  once {id other : VisitId} {visit beside : Visit} (found : salon.visits.visit? id = some visit)
    (found' : salon.visits.visit? other = some beside) (hub : visit.hub = beside.hub)
    (session : visit.session = beside.session) : id = other
  waiting {document : DocumentId} {id : VisitId} {visit : Visit} {room : RoomId}
    (found : salon.visits.visit? id = some visit) :
    salon.shown.get? ⟨visit.hub, document, .session visit.session⟩ ≠ some room
  single {hub : HubId} {document other : DocumentId} {session : SessionId} {room room' : RoomId}
    (looked : salon.shown.get? ⟨hub, document, .session session⟩ = some room)
    (beside : salon.shown.get? ⟨hub, other, .session session⟩ = some room') : document = other

omit [Lease.Store S] [Medium B Fault Ask Answer] in
theorem shown_sit (salon : Salon S B Ask Answer) (hub : HubId) (document : DocumentId)
    (session : SessionId) :
    (salon.sit hub document session).shown.get? ⟨hub, document, .session session⟩ = none := by
  unfold sit
  split
  · next waits => exact waits
  · next room looked =>
      simp only [setFoyer, Foyer.sit, foyer, looked]
      exact (Table.get?_erase ..).trans (if_pos rfl)

/-- Who is still to sit down after a move was so before, or has just come. -/
theorem session_after
    (looked : (salon.after move).shown.get? ⟨hub, document, .session session⟩ = some room) :
    salon.shown.get? ⟨hub, document, .session session⟩ = some room ∧
        move ≠ .sit hub document session ∨
      move = .come hub document ∧ ∃ roster, salon.foyer.hubs.roster? hub = some roster ∧
        roster.nextSession = session := by
  have waits : move ≠ .sit hub document session := by
    rintro rfl
    rw [after, shown_sit] at looked
    cases looked
  have happens := foyer_after salon move
  cases does : salon.atFoyer move with
  | some at' =>
      rw [does] at happens
      have same : (salon.after move).shown = (salon.foyer.after at').visits :=
        congrArg Foyer.visits happens
      rw [same] at looked
      rcases Foyer.visits_of_session looked with before | ⟨rfl, come⟩
      · exact .inl ⟨before, waits⟩
      · exact .inr ⟨move_of_atFoyer does, come⟩
  | none =>
      rw [does] at happens
      have same : (salon.after move).shown = salon.shown := happens.visits
      exact .inl ⟨same ▸ looked, waits⟩

/-- Sessions stay those of their visits. -/
theorem Seating.after (seating : salon.Seating) (move : Move S B Fault) :
    (salon.after move).Seating := by
  constructor
  case foyer => exact foyerSound_after seating.foyer move
  case hosted =>
    intro id visit found
    rcases visit_of_after found with ⟨before, found', rfl⟩ | ⟨begins, -⟩
    · exact (seating.hosted found').after move
    · obtain ⟨-, -, room, looked⟩ := sit_of_begun begins
      exact (seating.awaited looked).after move
  case awaited =>
    intro hub document session room looked
    rcases session_after looked with ⟨before, -⟩ | ⟨rfl, roster, found, rfl⟩
    · exact (seating.awaited before).after move
    · refine ⟨_, Foyer.roster?_arrive found, ?_⟩
      rw [(Roster.nextSession_changed (.entered document)).2 document rfl]
      exact Nat.lt_succ_self _
  case once =>
    have fresh {id : VisitId} {visit beside : Visit} (begins : salon.begun? move = some visit)
        (found : salon.visits.visit? id = some beside) (hub : visit.hub = beside.hub)
        (session : visit.session = beside.session) : False := by
      obtain ⟨-, -, room, looked⟩ := sit_of_begun begins
      rw [hub, session] at looked
      exact seating.waiting found looked
    intro id other visit beside found found' hub session
    rcases visit_of_after found with ⟨before, there, rfl⟩ | ⟨begins, new⟩
    · rcases visit_of_after found' with ⟨before', there', rfl⟩ | ⟨begins', -⟩
      · exact seating.once there there' hub session
      · exact (fresh begins' there hub.symm session.symm).elim
    · rcases visit_of_after found' with ⟨before', there', rfl⟩ | ⟨-, new'⟩
      · exact (fresh begins there' hub session).elim
      · exact new.trans new'.symm
  case waiting =>
    intro document id visit room found looked
    rcases visit_of_after found with ⟨before, there, rfl⟩ | ⟨begins, -⟩
    · rcases session_after looked with ⟨waits, -⟩ | ⟨-, roster, hosted, next⟩
      · exact seating.waiting there waits
      · exact (seating.hosted there).ne_next hosted next
    · obtain ⟨-, sits, room', shown⟩ := sit_of_begun begins
      rcases session_after looked with ⟨waits, others⟩ | ⟨comes, -⟩
      · cases seating.single waits shown
        exact others sits
      · cases sits.symm.trans comes
  case single =>
    intro hub document other session room room' looked beside
    rcases session_after looked with ⟨waits, -⟩ | ⟨rfl, roster, hosted, next⟩
    · rcases session_after beside with ⟨waits', -⟩ | ⟨-, roster, hosted, next⟩
      · exact seating.single waits waits'
      · exact absurd next ((seating.awaited waits).ne_next hosted)
    · rcases session_after beside with ⟨waits', -⟩ | ⟨same, -⟩
      · exact absurd next ((seating.awaited waits').ne_next hosted)
      · cases same
        rfl

/-! ## How far visits are -/

/-- Whether a job sees nobody off any more. -/
def Idles (salon : Salon S B Ask Answer) (job : JobId) : Prop :=
  ∃ held, salon.visits.hubs.jobs.get? job = some held ∧ Hub.SeesNobodyOff held.rest

/-- How often the session of a visit has left, as far as the visit is: it leaves with the job
that begins when the connection is gone, and never again. -/
inductive Course (salon : Salon S B Ask Answer) (hub : HubId) (document : DocumentId)
    (session : SessionId) : Visit.Phase → Nat → Prop where
  | listening : Course salon hub document session .listening 0
  | handling {job : JobId} (idles : salon.Idles job) :
      Course salon hub document session (.handling job) 0
  | replying (frames : List Frame) : Course salon hub document session (.replying frames) 0
  | leaving {job : JobId} (waits : salon.visits.hubs.jobs.get? job =
      some ⟨hub, Hub.dismiss document session, none⟩) :
      Course salon hub document session (.leaving job) 0
  | left {job : JobId} (idles : salon.Idles job) :
      Course salon hub document session (.leaving job) 1
  | over : Course salon hub document session .over 1

theorem Idles.after {job : JobId} (idles : salon.Idles job)
    (bound : job < salon.visits.hubs.nextJob) (move : Move S B Fault) :
    (salon.after move).Idles job := by
  obtain ⟨held, found, keeps⟩ := idles
  obtain ⟨turned, found', same | ⟨_, _, turn⟩⟩ := turn_after move bound found
  · exact ⟨turned, found', same ▸ keeps⟩
  · exact ⟨turned, found', turn.seesNobodyOff keeps⟩

omit [Lease.Store S] [Medium B Fault Ask Answer] in
/-- A job that is to see a session off looks up the room first, if there is one, and sees the
session off next. -/
theorem step_departing {foyer : Foyer S B Ask Answer} {job : JobId} {next : Nat → Hub.Handling}
    (found : foyer.hubs.jobs.get? job = some ⟨hub, .ask (.depart document session) next, none⟩)
    (hosted : (foyer.hubs.roster? hub).isSome) (moment : Lock.Moment) :
    (left? foyer job = none ∧
        (∃ room, (foyer.step job moment).visits.get? ⟨hub, document, .job job⟩ = some room) ∧
        (foyer.step job moment).hubs = foyer.hubs) ∨
      left? foyer job = some (.left hub session) ∧
        ∃ answer, (foyer.step job moment).hubs.jobs.get? job = some ⟨hub, next answer, none⟩ := by
  obtain ⟨roster, hosted⟩ := Option.isSome_iff_exists.mp hosted
  obtain ⟨held, there, rfl⟩ := Option.map_eq_some_iff.mp hosted
  simp only [left?, Foyer.step, Foyer.attend, found, hosted, there]
  cases looked : foyer.visits.get? ⟨hub, document, .job job⟩ with
  | some room =>
      refine .inr ⟨by simp,
        (held.roster.part document room session (foyer.visitors hub room)).1, ?_⟩
      exact (Table.get?_insert ..).trans (if_pos rfl)
  | none =>
      cases here : held.roster.room? document with
      | some room =>
          refine .inl ⟨by simp, ⟨room, ?_⟩, rfl⟩
          exact (Table.get?_insert ..).trans (if_pos rfl)
      | none =>
          refine .inr ⟨by simp, 0, ?_⟩
          exact (Table.get?_insert ..).trans (if_pos rfl)

theorem foyer_step {job : JobId} (busy : salon.job? id = some job) (moment : Lock.Moment) :
    (salon.after (.step id moment : Move S B Fault)).foyer = salon.foyer.step job moment := by
  simp only [after, onJob, busy]
  rfl

omit [Medium B Fault Ask Answer] in
theorem told?_step {job : JobId} (busy : salon.job? id = some job) (moment : Lock.Moment) :
    salon.told? (.step id moment : Move S B Fault) = left? salon.foyer job := by
  rw [told?, busy, Option.bind_some]

/-- A visit is as far after a move by which its session does not leave. -/
theorem Course.stays {phase : Visit.Phase} {times : Nat} (sound : salon.Sound)
    (hosted : (salon.foyer.hubs.roster? hub).isSome)
    (course : salon.Course hub document session phase times)
    (busy : ∀ job, phase = .handling job ∨ phase = .leaving job → salon.job? id = some job)
    (remains : salon.told? move ≠ some (.left hub session)) :
    (salon.after move).Course hub document session phase times := by
  cases course with
  | listening => exact .listening
  | handling idles => exact .handling (idles.after (sound.bounded (busy _ (.inl rfl))) move)
  | replying frames => exact .replying frames
  | left idles => exact .left (idles.after (sound.bounded (busy _ (.inr rfl))) move)
  | «over» => exact .over
  | @leaving job waits =>
      refine .leaving ?_
      have mine := busy job (.inr rfl)
      obtain ⟨turned, found, same | ⟨happens, does, turn⟩⟩ :=
        turn_after move (sound.bounded mine) waits
      · rw [found, same]
      · by_cases steps : ∃ moment, happens = .hubs (.step job moment)
        · obtain ⟨moment, rfl⟩ := steps
          obtain ⟨other, rfl, busy'⟩ := move_of_atFoyer does
          cases sound.apart mine busy'
          rw [told?_step mine] at remains
          rcases step_departing waits hosted moment with ⟨-, -, same⟩ | ⟨leaves, -⟩
          · have still : (salon.after (.step id moment : Move S B Fault)).visits.hubs =
                salon.visits.hubs := (congrArg Foyer.hubs (foyer_step mine moment)).trans same
            rw [still, waits]
          · exact absurd leaves remains
        · rw [found, turn.of_departing rfl fun moment same => steps ⟨moment, ?_⟩]
          cases happens with
          | hubs move =>
              cases same
              rfl
          | _ => cases same

omit [Lease.Store S] [Medium B Fault Ask Answer] in
theorem departing_of_left? {foyer : Foyer S B Ask Answer} {job : JobId}
    (leaves : left? foyer job = some (.left hub session)) :
    ∃ document next, foyer.hubs.jobs.get? job =
      some ⟨hub, .ask (.depart document session) next, none⟩ ∧
        ∃ roster, foyer.hubs.roster? hub = some roster ∧
          ((∃ room, foyer.visits.get? ⟨hub, document, .job job⟩ = some room) ∨
            roster.room? document = none) := by
  unfold left? at leaves
  split at leaves
  · next home document session' next found =>
      split at leaves
      · next roster hosted =>
          split at leaves
          · next shown =>
              cases leaves
              exact ⟨document, next, found, roster, hosted,
                shown.imp_left Option.isSome_iff_exists.mp⟩
          · cases leaves
      · cases leaves
  · cases leaves

omit [Medium B Fault Ask Answer] in
/-- Nobody is told to join but with a visit that begins, or to leave but with the step of a
visit's job. -/
theorem move_of_told {event : Event} (tells : salon.told? move = some event) :
    match event with
    | .joined hub session => ∃ visit, salon.begun? move = some visit ∧ visit.hub = hub ∧
        visit.session = session
    | .left hub session => ∃ id moment job, move = .step id moment ∧ salon.job? id = some job ∧
        left? salon.foyer job = some (.left hub session)
    | _ => True := by
  cases move with
  | sit hub document session =>
      obtain ⟨room, looked, rfl⟩ := Option.map_eq_some_iff.mp tells
      refine ⟨⟨hub, document, session, .listening⟩, ?_, rfl, rfl⟩
      rw [begun?, looked]
      rfl
  | step id moment =>
      obtain ⟨job, busy, leaves⟩ := Option.bind_eq_some_iff.mp tells
      have same : ∃ hub session, event = .left hub session := by
        unfold left? at leaves
        split at leaves
        · split at leaves
          · split at leaves
            · cases leaves
              exact ⟨_, _, rfl⟩
            · cases leaves
          · cases leaves
        · cases leaves
      obtain ⟨hub, session, rfl⟩ := same
      exact ⟨id, moment, job, rfl, busy, leaves⟩
  | perform id failure now =>
      obtain ⟨operation, -, calls⟩ := Option.bind_eq_some_iff.mp tells
      unfold called? at calls
      split at calls
      · cases calls
      · split at calls
        · cases calls
          trivial
        · cases calls
  | fetch id count =>
      obtain ⟨visit, found, rfl⟩ := Option.map_eq_some_iff.mp tells
      trivial
  | _ => cases tells

omit [Medium B Fault Ask Answer] in
/-- A session leaves with the job of its own visit, which has not left before. -/
theorem leaving_of_told {times : Visit → Nat}
    (courses : ∀ id visit, salon.visits.visit? id = some visit →
      salon.Course visit.hub visit.document visit.session visit.phase (times visit))
    (leaves : salon.told? move = some (.left hub session)) :
    ∃ id moment job visit, move = .step id moment ∧ salon.job? id = some job ∧
      salon.visits.visit? id = some visit ∧ visit.phase = .leaving job ∧ visit.hub = hub ∧
      visit.session = session ∧ left? salon.foyer job = some (.left hub session) ∧
      salon.visits.hubs.jobs.get? job =
        some ⟨visit.hub, Hub.dismiss visit.document visit.session, none⟩ := by
  obtain ⟨id, moment, job, rfl, busy, leaves⟩ := move_of_told leaves
  obtain ⟨document, next, found, -⟩ := departing_of_left? leaves
  obtain ⟨visit, there, phase⟩ := job?_eq_some_iff.mp busy
  have course := courses id visit there
  generalize times visit = often at course
  have departs : ¬ salon.Idles job := by
    rintro ⟨held, found', keeps⟩
    cases found.symm.trans found'
    exact Hub.not_seesNobodyOff _ _ _ keeps
  rcases phase with phase | phase
  · rw [phase] at course
    cases course with
    | handling idles => exact absurd idles departs
  · rw [phase] at course
    cases course with
    | left idles => exact absurd idles departs
    | leaving waits =>
        cases found.symm.trans waits
        exact ⟨id, moment, job, visit, rfl, busy, there, phase, rfl, rfl, leaves, waits⟩

omit [Lease.Store S] [Medium B Fault Ask Answer] in
/-- A visit that goes on has left as often as before. -/
theorem Course.followed {phase next : Visit.Phase} {times : Nat}
    (course : salon.Course hub document session phase times) (follows : salon.Follows phase next) :
    salon.Course hub document session next times := by
  cases follows with
  | waits => exact course
  | handled done =>
      cases course
      exact .replying _
  | rejected failed =>
      cases course
      exact .listening
  | sent reply rest =>
      cases course
      exact .replying rest
  | replied frames =>
      cases course
      exact .listening
  | left done =>
      cases course with
      | left idles => exact .over
      | leaving waits => simp only [Hubs.result?, waits, Hub.dismiss_eq, reduceCtorEq] at done

/-- What is known of the visits of a salon from what was told. -/
structure Attended (told : List Event) (salon : Salon S B Ask Answer) : Prop where
  joined {id : VisitId} {visit : Visit} (found : salon.visits.visit? id = some visit) :
    told.count (.joined visit.hub visit.session) = 1
  known {hub : HubId} {session : SessionId}
    (member : .joined hub session ∈ told ∨ .left hub session ∈ told) :
    ∃ id visit, salon.visits.visit? id = some visit ∧ visit.hub = hub ∧ visit.session = session
  course (id : VisitId) (visit : Visit) (found : salon.visits.visit? id = some visit) :
    salon.Course visit.hub visit.document visit.session visit.phase
      (told.count (.left visit.hub visit.session))
  present {hub : HubId} {roster : Roster} {document : DocumentId} {room : RoomId}
    {session : SessionId} (found : salon.foyer.hubs.roster? hub = some roster)
    (here : roster.room? document = some room) (sits : roster.Sits room session) :
    ∃ id visit, salon.visits.visit? id = some visit ∧ visit.hub = hub ∧
      visit.document = document ∧ visit.session = session ∧ .left hub session ∉ told

omit [Lease.Store S] [Medium B Fault Ask Answer] in
theorem count_told (told : List Event) (next : Option Event) (event : Event) :
    (told ++ next.toList).count event =
      told.count event + if next = some event then 1 else 0 := by
  rw [List.count_append]
  cases next with
  | none => rfl
  | some other => simp [List.count_singleton]

omit [Medium B Fault Ask Answer] in
theorem told_of_begun (begins : salon.begun? move = some visit) :
    salon.told? move = some (.joined visit.hub visit.session) := by
  obtain ⟨-, rfl, room, looked⟩ := sit_of_begun begins
  rw [told?, looked]
  rfl

namespace Attended

variable {told : List Event}

omit [Lease.Store S] in
/-- Who is still to sit down is told nothing of. -/
theorem unknown (attended : salon.Attended told) (seating : salon.Seating)
    (looked : salon.shown.get? ⟨hub, document, .session session⟩ = some room) :
    .joined hub session ∉ told ∧ .left hub session ∉ told := by
  constructor
  · intro member
    obtain ⟨id, visit, found, rfl, rfl⟩ := attended.known (.inl member)
    exact seating.waiting found looked
  · intro member
    obtain ⟨id, visit, found, rfl, rfl⟩ := attended.known (.inr member)
    exact seating.waiting found looked

theorem joined_after (attended : salon.Attended told) (seating : salon.Seating)
    (found : (salon.after move).visits.visit? id = some visit) :
    (told ++ (salon.told? move).toList).count (.joined visit.hub visit.session) = 1 := by
  rw [count_told]
  rcases visit_of_after found with ⟨before, there, rfl⟩ | ⟨begins, -⟩
  · dsimp only
    rw [attended.joined there, if_neg]
    intro joins
    obtain ⟨begun, begins, hub, session⟩ := move_of_told joins
    obtain ⟨-, -, room, looked⟩ := sit_of_begun begins
    rw [hub, session] at looked
    exact seating.waiting there looked
  · obtain ⟨-, -, room, looked⟩ := sit_of_begun begins
    rw [List.count_eq_zero.mpr (attended.unknown seating looked).1, told_of_begun begins,
      if_pos rfl]

theorem known_after (attended : salon.Attended told) (sound : salon.Sound)
    (member : .joined hub session ∈ told ++ (salon.told? move).toList ∨
      .left hub session ∈ told ++ (salon.told? move).toList) :
    ∃ id visit, (salon.after move).visits.visit? id = some visit ∧ visit.hub = hub ∧
      visit.session = session := by
  have goesOn {id : VisitId} {visit : Visit} (found : salon.visits.visit? id = some visit) :
      ∃ id after, (salon.after move).visits.visit? id = some after ∧ after.hub = visit.hub ∧
        after.session = visit.session := ⟨id, _, visit_after sound found move, rfl, rfl⟩
  have before (member : .joined hub session ∈ told ∨ .left hub session ∈ told) :
      ∃ id visit, (salon.after move).visits.visit? id = some visit ∧ visit.hub = hub ∧
        visit.session = session := by
    obtain ⟨id, visit, found, rfl, rfl⟩ := attended.known member
    exact goesOn found
  rcases member with joins | leaves
  · rcases List.mem_append.mp joins with earlier | joins
    · exact before (.inl earlier)
    · obtain ⟨begun, begins, rfl, rfl⟩ := move_of_told (Option.mem_toList.mp joins)
      exact ⟨_, begun, visit_of_begun begins, rfl, rfl⟩
  · rcases List.mem_append.mp leaves with earlier | leaves
    · exact before (.inr earlier)
    · obtain ⟨id, moment, job, visit, -, -, found, -, rfl, rfl, -⟩ :=
        leaving_of_told attended.course (Option.mem_toList.mp leaves)
      exact goesOn found

/-- A visit that takes what arrives has not left, and may be about to. -/
theorem course_heard {times : Nat} (found : salon.visits.visit? id = some visit)
    (listens : visit.phase = .listening)
    (course : salon.Course visit.hub visit.document visit.session visit.phase times)
    (arrival : Arrival) :
    (salon.after (.receive id arrival : Move S B Fault)).Course visit.hub visit.document
      visit.session (salon.heard arrival) times := by
  rw [listens] at course
  cases course
  cases arrival with
  | other => exact .listening
  | binary bytes =>
      exact .handling ⟨_, job_of_receive found listens rfl,
        Hub.seesNobodyOff_handleBytes visit.document visit.session bytes⟩
  | gone => exact .leaving (job_of_receive found listens rfl)

/-- A visit whose session leaves has left once. -/
theorem course_left (attended : salon.Attended told) (seating : salon.Seating)
    (found : salon.visits.visit? id = some visit)
    (hosted : (salon.foyer.hubs.roster? visit.hub).isSome)
    (leaves : salon.told? move = some (.left visit.hub visit.session)) :
    (salon.after move).Course visit.hub visit.document visit.session (salon.turned move id visit)
      (told.count (.left visit.hub visit.session) + 1) := by
  obtain ⟨other, moment, job, beside, rfl, busy, there, phase, hub, session, told', waits⟩ :=
    leaving_of_told attended.course leaves
  cases seating.once there found hub session
  cases there.symm.trans found
  have departs : (salon.after (.step id moment : Move S B Fault)).Idles job := by
    rcases step_departing waits hosted moment with ⟨stays, -⟩ | ⟨-, answer, answered⟩
    · cases stays.symm.trans told'
    · refine ⟨⟨visit.hub, Hub.departed visit.document answer, none⟩, ?_,
        Hub.seesNobodyOff_departed visit.document answer⟩
      have same : (salon.after (.step id moment : Move S B Fault)).foyer = _ :=
        foyer_step busy moment
      rw [← same] at answered
      exact answered
  have course := attended.course id visit found
  rw [phase] at course
  rw [show salon.turned _ id visit = visit.phase from rfl, phase]
  generalize told.count (.left visit.hub visit.session) = times at course
  cases course with
  | leaving waits => exact .left departs
  | left idles =>
      obtain ⟨held, same, keeps⟩ := idles
      cases waits.symm.trans same
      exact (Hub.not_seesNobodyOff _ _ _ keeps).elim

/-- A visit is as far after a move as its session has left. -/
theorem course_after (attended : salon.Attended told) (sound : salon.Sound)
    (seating : salon.Seating) (found : (salon.after move).visits.visit? id = some visit) :
    (salon.after move).Course visit.hub visit.document visit.session visit.phase
      ((told ++ (salon.told? move).toList).count (.left visit.hub visit.session)) := by
  rw [count_told]
  rcases visit_of_after found with ⟨before, there, rfl⟩ | ⟨begins, -⟩
  · have hosted : (salon.foyer.hubs.roster? before.hub).isSome := by
      obtain ⟨roster, found, -⟩ := seating.hosted there
      rw [found]
      rfl
    have course := attended.course id before there
    by_cases leaves : salon.told? move = some (.left before.hub before.session)
    · rw [if_pos leaves]
      exact attended.course_left seating there hosted leaves
    · rw [if_neg leaves, Nat.add_zero]
      rcases turned_cases salon move id before with ⟨arrival, rfl, listens, hears⟩ | follows
      · rw [hears]
        exact course_heard there listens course arrival
      · exact (course.followed follows).stays sound hosted
          (fun job phase => job?_eq_some_iff.mpr ⟨before, there, follows.busy phase⟩) leaves
  · obtain ⟨listens, -, room, looked⟩ := sit_of_begun begins
    rw [List.count_eq_zero.mpr (attended.unknown seating looked).2, told_of_begun begins, listens,
      if_neg (by simp)]
    exact .listening

omit [Lease.Store S] [Medium B Fault Ask Answer] in
/-- A session that is seen off from the room that was looked up sits there no longer. -/
theorem not_sits_step {foyer : Foyer S B Ask Answer} {job : JobId} {next : Nat → Hub.Handling}
    {moment : Lock.Moment} {roster : Roster}
    (found : foyer.hubs.jobs.get? job = some ⟨hub, .ask (.depart document session) next, none⟩)
    (looked : foyer.visits.get? ⟨hub, document, .job job⟩ = some room)
    (after : (foyer.step job moment).hubs.roster? hub = some roster)
    (hosted : (foyer.hubs.roster? hub).isSome) : ¬ roster.Sits room session := by
  obtain ⟨before, hosted⟩ := Option.isSome_iff_exists.mp hosted
  obtain ⟨held, there, rfl⟩ := Option.map_eq_some_iff.mp hosted
  simp only [Foyer.step, Foyer.attend, found, there, looked] at after
  have parted := (Foyer.roster?_setHub hub).symm.trans after
  rw [if_pos rfl] at parted
  cases parted
  exact fun sits => (Roster.sits_part.mp sits).1 ⟨rfl, rfl⟩

/-- Nobody leaves who still sits at the document of his visit afterwards. -/
theorem remains_of_sits (attended : salon.Attended told) (seating : salon.Seating)
    {before roster : Roster} (there : salon.visits.visit? id = some visit)
    (hosted : salon.foyer.hubs.roster? visit.hub = some before)
    (here : before.room? visit.document = some room)
    (found : (salon.after move).foyer.hubs.roster? visit.hub = some roster)
    (sits : roster.Sits room visit.session) :
    salon.told? move ≠ some (.left visit.hub visit.session) := by
  intro leaves
  obtain ⟨other, moment, job, visit', rfl, busy, found', -, hub, session, told', waits⟩ :=
    leaving_of_told attended.course leaves
  cases seating.once found' there hub session
  cases found'.symm.trans there
  obtain ⟨document, next, departs, roster', hosted', looked | absent⟩ := departing_of_left? told'
  · cases hosted.symm.trans hosted'
    cases departs.symm.trans waits
    obtain ⟨room', looked⟩ := looked
    obtain ⟨placed, hosted'', here', -⟩ := seating.foyer.visits looked
    cases hosted.symm.trans hosted''
    cases here.symm.trans here'
    rw [foyer_step busy moment] at found
    exact not_sits_step waits looked found (by rw [hosted]; rfl) sits
  · cases hosted.symm.trans hosted'
    cases departs.symm.trans waits
    cases here.symm.trans absent

/-- Who sits at a document after a move is still there, or has sat down with it. -/
theorem present_after (attended : salon.Attended told) (sound : salon.Sound)
    (seating : salon.Seating) {roster : Roster}
    (found : (salon.after move).foyer.hubs.roster? hub = some roster)
    (here : roster.room? document = some room) (sits : roster.Sits room session) :
    ∃ id visit, (salon.after move).visits.visit? id = some visit ∧ visit.hub = hub ∧
      visit.document = document ∧ visit.session = session ∧
        .left hub session ∉ told ++ (salon.told? move).toList := by
  have stayed {before : Roster} (hosted : salon.foyer.hubs.roster? hub = some before)
      (here : before.room? document = some room) (sat : before.Sits room session) :
      ∃ id visit, (salon.after move).visits.visit? id = some visit ∧ visit.hub = hub ∧
        visit.document = document ∧ visit.session = session ∧
          .left hub session ∉ told ++ (salon.told? move).toList := by
    obtain ⟨id, visit, there, rfl, rfl, rfl, stays⟩ := attended.present hosted here sat
    refine ⟨id, _, visit_after sound there move, rfl, rfl, rfl, fun member => ?_⟩
    rcases List.mem_append.mp member with earlier | leaves
    · exact stays earlier
    · exact attended.remains_of_sits seating there hosted here found sits
        (Option.mem_toList.mp leaves)
  rcases roster_after salon move hub with same | ⟨before, change, hosted, after, sat⟩
  · exact stayed (same.symm.trans found) here sits
  · cases found.symm.trans after
    obtain ⟨here', sat' | new⟩ := (seating.foyer.rosters hosted).sits_of_changed here sits
    · exact stayed hosted here' sat'
    · obtain ⟨other, rfl, looked⟩ := sat room session new
      obtain ⟨placed, hosted', there, -⟩ := seating.foyer.visits looked
      cases hosted.symm.trans hosted'
      cases (seating.foyer.rosters hosted).apart here' there
      have begins : salon.begun? (.sit hub other session : Move S B Fault) =
          some ⟨hub, other, session, .listening⟩ := by
        rw [begun?, looked]
        rfl
      refine ⟨_, _, visit_of_begun begins, rfl, rfl, rfl, fun member => ?_⟩
      rcases List.mem_append.mp member with earlier | leaves
      · exact (attended.unknown seating looked).2 earlier
      · rw [told_of_begun begins] at leaves
        cases Option.mem_toList.mp leaves

/-- What is known of visits goes on with what is told. -/
theorem after (attended : salon.Attended told) (sound : salon.Sound) (seating : salon.Seating)
    (move : Move S B Fault) :
    (salon.after move).Attended (told ++ (salon.told? move).toList) where
  joined := attended.joined_after seating
  known := attended.known_after sound
  course _ _ := attended.course_after sound seating
  present := attended.present_after sound seating

end Attended

/-! ## Whole runs -/

omit [Lease.Store S] [Medium B Fault Ask Answer] in
theorem Course.times_le_one {phase : Visit.Phase} {times : Nat}
    (course : salon.Course hub document session phase times) : times ≤ 1 := by
  cases course <;> omega

/-- What is known of the visits of a salon holds to the end of a run. -/
theorem Attended.run {told : List Event} (attended : salon.Attended told) (sound : salon.Sound)
    (seating : salon.Seating) (moves : List (Move S B Fault)) :
    (salon.afterAll moves).Attended (told ++ salon.report moves) ∧
      (salon.afterAll moves).Sound ∧ (salon.afterAll moves).Seating := by
  induction moves generalizing salon told with
  | nil =>
      rw [report, List.append_nil]
      exact ⟨attended, sound, seating⟩
  | cons move moves ih =>
      have goesOn := ih (attended.after sound seating move) (sound.after move) (seating.after move)
      rwa [List.append_assoc] at goesOn

theorem report_append (salon : Salon S B Ask Answer) (moves later : List (Move S B Fault)) :
    salon.report (moves ++ later) = salon.report moves ++ (salon.afterAll moves).report later := by
  induction moves generalizing salon with
  | nil => rfl
  | cons move moves ih =>
      rw [List.cons_append, report, report, ih, List.append_assoc]
      rfl

omit [Medium B Fault Ask Answer] [Lease.Store S] in
theorem left?_of_looked {foyer : Foyer S B Ask Answer} {job : JobId} {next : Nat → Hub.Handling}
    (found : foyer.hubs.jobs.get? job = some ⟨hub, .ask (.depart document session) next, none⟩)
    (hosted : (foyer.hubs.roster? hub).isSome)
    (looked : foyer.visits.get? ⟨hub, document, .job job⟩ = some room) :
    left? foyer job = some (.left hub session) := by
  obtain ⟨roster, hosted⟩ := Option.isSome_iff_exists.mp hosted
  simp [left?, found, hosted, looked]

/-- A session that has not left does so with the second step of its job at the latest. -/
theorem left_of_steps {job : JobId} (sound : salon.Sound)
    (found : salon.visits.visit? id = some visit) (phase : visit.phase = .leaving job)
    (hosted : (salon.foyer.hubs.roster? visit.hub).isSome)
    (waits : salon.visits.hubs.jobs.get? job =
      some ⟨visit.hub, Hub.dismiss visit.document visit.session, none⟩)
    (moment later : Lock.Moment) :
    .left visit.hub visit.session ∈
      salon.report [(.step id moment : Move S B Fault), .step id later] := by
  have busy : salon.job? id = some job := job?_eq_some_iff.mpr ⟨visit, found, .inr phase⟩
  have stepped : (salon.after (.step id moment : Move S B Fault)).foyer = _ :=
    foyer_step busy moment
  simp only [report, List.mem_append, Option.mem_toList, told?_step busy]
  rcases step_departing waits hosted moment with ⟨-, ⟨room, looked⟩, same⟩ | ⟨leaves, -⟩
  · refine .inr (.inl ?_)
    have still : (salon.after (.step id moment : Move S B Fault)).visits.visit? id = some visit :=
      visit_after sound found _
    rw [told?_step (job?_eq_some_iff.mpr ⟨visit, still, .inr phase⟩), stepped]
    have waits' : (salon.foyer.step job moment).hubs.jobs.get? job = some ⟨visit.hub,
        .ask (.depart visit.document visit.session) (Hub.departed visit.document), none⟩ := by
      rw [same]
      exact waits
    exact left?_of_looked waits' (by rwa [same]) looked
  · exact .inl leaves

/-- Two steps of its job are enough for the session of a visit to have left, and more do not
let it leave again. -/
theorem Attended.left_of_leaving {told : List Event} {job : JobId} (attended : salon.Attended told)
    (sound : salon.Sound) (seating : salon.Seating) (found : salon.visits.visit? id = some visit)
    (phase : visit.phase = .leaving job) (moment later : Lock.Moment) :
    (told ++ salon.report [(.step id moment : Move S B Fault), .step id later]).count
      (.left visit.hub visit.session) = 1 := by
  have once : (salon.after (.step id moment : Move S B Fault)).visits.visit? id = some visit :=
    visit_after sound found _
  have still : (salon.afterAll [(.step id moment : Move S B Fault), .step id later]).visits.visit?
      id = some visit := visit_after (sound.after _) once (.step id later : Move S B Fault)
  have atMost := ((attended.run sound seating _).1.course id visit still).times_le_one
  refine Nat.le_antisymm atMost (List.count_pos_iff.mpr ?_)
  have course := attended.course id visit found
  rw [phase] at course
  generalize often : told.count (.left visit.hub visit.session) = times at course
  cases course with
  | left idles =>
      refine List.mem_append_left _ (List.count_pos_iff.mp ?_)
      rw [often]
      exact Nat.one_pos
  | leaving waits =>
      obtain ⟨roster, hosted, -⟩ := seating.hosted found
      exact List.mem_append_right _
        (left_of_steps sound found phase (by rw [hosted]; rfl) waits moment later)

/-- Whether a visit is about to end, or over. -/
def isEnding : Visit.Phase → Bool
  | .leaving _ => true
  | .over => true
  | _ => false

omit [Lease.Store S] [Medium B Fault Ask Answer] in
theorem Follows.isEnding {phase next : Visit.Phase} (follows : salon.Follows phase next) :
    isEnding next = isEnding phase := by
  cases follows <;> rfl

omit [Lease.Store S] [Medium B Fault Ask Answer] in
/-- A visit ends when its connection is gone, and for no other reason. -/
theorem isEnding_turned (permits : salon.Permits move)
    (found : salon.visits.visit? id = some visit) :
    isEnding (salon.turned move id visit) = true ↔
      isEnding visit.phase = true ∨ move = .receive id .gone := by
  rcases turned_cases salon move id visit with ⟨arrival, rfl, listens, hears⟩ | follows
  · rw [hears, listens]
    cases arrival <;> simp [heard, isEnding]
  · rw [follows.isEnding, iff_self_or]
    rintro rfl
    obtain ⟨visit', found', listens⟩ := Option.map_eq_some_iff.mp permits
    cases found.symm.trans found'
    rw [listens] at follows
    rw [turned, if_pos ⟨rfl, listens⟩] at follows
    cases follows

/-- A visit is at its end after a run if it was so before, or its connection was gone
meanwhile. -/
theorem isEnding_run (sound : salon.Sound) {moves : List (Move S B Fault)}
    (run : salon.IsRun moves) :
    (∃ visit, (salon.afterAll moves).visits.visit? id = some visit ∧ isEnding visit.phase = true) ↔
      (∃ visit, salon.visits.visit? id = some visit ∧ isEnding visit.phase = true) ∨
        .receive id .gone ∈ moves := by
  induction moves generalizing salon with
  | nil => simp [afterAll]
  | cons move moves ih =>
      obtain ⟨permits, run⟩ := run
      have step : (∃ visit, (salon.after move).visits.visit? id = some visit ∧
            isEnding visit.phase = true) ↔
          (∃ visit, salon.visits.visit? id = some visit ∧ isEnding visit.phase = true) ∨
            move = .receive id .gone := by
        constructor
        · rintro ⟨visit, found, ends⟩
          rcases visit_of_after found with ⟨before, there, rfl⟩ | ⟨begins, -⟩
          · exact ((isEnding_turned permits there).mp ends).imp_left fun ended =>
              ⟨before, there, ended⟩
          · rw [(sit_of_begun begins).1] at ends
            cases ends
        · rintro (⟨visit, found, ends⟩ | rfl)
          · exact ⟨_, visit_after sound found move, (isEnding_turned permits found).mpr (.inl ends)⟩
          · obtain ⟨visit, found, -⟩ := Option.map_eq_some_iff.mp permits
            exact ⟨_, visit_after sound found _, (isEnding_turned permits found).mpr (.inr rfl)⟩
      rw [List.mem_cons, ← or_assoc, eq_comm (a := Move.receive id .gone), ← step]
      exact ih (sound.after move) run

end

end Salon

end Coedit
