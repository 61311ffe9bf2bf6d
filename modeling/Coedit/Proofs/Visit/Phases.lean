import Coedit.Proofs.Visit.Salon

/-!
# Phases of visits

What becomes of a visit with each move.  Only what arrives and its own going on change its
phase, and the jobs of visits are their own.
-/

namespace Coedit

namespace Salon

variable {S B Fault Ask : Type} {Answer : Ask → Type}

/-! ## What becomes of a visit -/

/-- The phase of a visit that has taken what arrives. -/
def heard (salon : Salon S B Ask Answer) : Arrival → Visit.Phase
  | .binary _ => .handling salon.visits.hubs.nextJob
  | .other => .listening
  | .gone => .leaving salon.visits.hubs.nextJob

/-- The phase of a visit that goes on. -/
def followed (salon : Salon S B Ask Answer) (visit : Visit) : Visit.Phase :=
  match visit.phase with
  | .handling job =>
      match salon.visits.hubs.result? job with
      | some (.ok replies) => .replying replies
      | some (.error _) => .listening
      | none => .handling job
  | .replying [] => .listening
  | .replying (reply :: rest) =>
      if !(salon.visits.outbox visit).isOpen then .listening
      else if (salon.visits.outbox visit).hasRoom then .replying rest
      else .replying (reply :: rest)
  | .leaving job =>
      match salon.visits.hubs.result? job with
      | some _ => .over
      | none => .leaving job
  | .listening => .listening
  | .over => .over

/-- How the phase of a visit that goes on may change. -/
inductive Follows (salon : Salon S B Ask Answer) : Visit.Phase → Visit.Phase → Prop where
  | waits (phase : Visit.Phase) : Follows salon phase phase
  | handled {job : JobId} {replies : List Frame}
      (done : salon.visits.hubs.result? job = some (.ok replies)) :
      Follows salon (.handling job) (.replying replies)
  | rejected {job : JobId} {error : HubError Empty}
      (failed : salon.visits.hubs.result? job = some (.error error)) :
      Follows salon (.handling job) .listening
  | sent (reply : Frame) (rest : List Frame) :
      Follows salon (.replying (reply :: rest)) (.replying rest)
  /-- There is no reply left, or nobody takes it. -/
  | replied (frames : List Frame) : Follows salon (.replying frames) .listening
  | left {job : JobId} {outcome : Hub.Outcome}
      (done : salon.visits.hubs.result? job = some outcome) : Follows salon (.leaving job) .over

theorem follows (salon : Salon S B Ask Answer) (visit : Visit) :
    salon.Follows visit.phase (salon.followed visit) := by
  unfold followed
  cases visit.phase with
  | listening => exact .waits _
  | «over» => exact .waits _
  | handling job =>
      dsimp only
      cases ends : salon.visits.hubs.result? job with
      | none => exact .waits _
      | some outcome =>
          cases outcome with
          | ok replies => exact .handled ends
          | error error => exact .rejected ends
  | leaving job =>
      dsimp only
      cases ends : salon.visits.hubs.result? job with
      | none => exact .waits _
      | some outcome => exact .left ends
  | replying frames =>
      cases frames with
      | nil => exact .replied []
      | cons reply rest =>
          dsimp only
          split
          · exact .replied _
          · split
            · exact .sent reply rest
            · exact .waits _

/-- The phase of a visit after a move. -/
def turned (salon : Salon S B Ask Answer) (move : Move S B Fault) (id : VisitId)
    (visit : Visit) : Visit.Phase :=
  match move with
  | .receive other arrival =>
      if other = id ∧ visit.phase = .listening then salon.heard arrival else visit.phase
  | .follow other => if other = id then salon.followed visit else visit.phase
  | _ => visit.phase

/-- A visit takes what arrives, goes on, or stays as far as it is. -/
theorem turned_cases (salon : Salon S B Ask Answer) (move : Move S B Fault) (id : VisitId)
    (visit : Visit) :
    (∃ arrival, move = .receive id arrival ∧ visit.phase = .listening ∧
        salon.turned move id visit = salon.heard arrival) ∨
      salon.Follows visit.phase (salon.turned move id visit) := by
  cases move with
  | receive other arrival =>
      by_cases hears : other = id ∧ visit.phase = .listening
      · obtain ⟨rfl, listens⟩ := hears
        exact .inl ⟨arrival, rfl, listens, if_pos ⟨rfl, listens⟩⟩
      · right
        rw [turned, if_neg hears]
        exact .waits _
  | follow other =>
      right
      simp only [turned]
      split
      · exact follows salon visit
      · exact .waits _
  | _ => exact .inr (.waits _)

/-- The visit that begins with a move. -/
def begun? (salon : Salon S B Ask Answer) : Move S B Fault → Option Visit
  | .sit hub document session =>
      (salon.shown.get? ⟨hub, document, .session session⟩).map fun _ =>
        ⟨hub, document, session, .listening⟩
  | _ => none

theorem sit_of_begun {salon : Salon S B Ask Answer} {move : Move S B Fault} {visit : Visit}
    (begins : salon.begun? move = some visit) :
    visit.phase = .listening ∧ move = .sit visit.hub visit.document visit.session ∧
      ∃ room,
        salon.shown.get? ⟨visit.hub, visit.document, .session visit.session⟩ = some room := by
  cases move with
  | sit hub document session =>
      obtain ⟨room, looked, rfl⟩ := Option.map_eq_some_iff.mp begins
      exact ⟨rfl, rfl, room, looked⟩
  | _ => cases begins

theorem visit?_setPhase (visits : Visits S B Ask Answer) (id other : VisitId)
    (phase : Visit.Phase) :
    (visits.setPhase id phase).visit? other = (visits.visit? other).map fun visit =>
      { visit with phase := if id = other then phase else visit.phase } := by
  simp only [Visits.setPhase, Visits.visit?, Table.get?_modify]
  split
  · rfl
  · cases visits.visits.get? other <;> rfl

theorem map_of_phase {visits : Visits S B Ask Answer} {id : VisitId}
    {phase : Visit → Visit.Phase}
    (stays : ∀ visit, visits.visit? id = some visit → phase visit = visit.phase) :
    (visits.visit? id).map (fun visit => { visit with phase := phase visit }) =
      visits.visit? id := by
  cases found : visits.visit? id with
  | none => rfl
  | some visit => rw [Option.map_some, stays visit found]

theorem visit?_receive (salon : Salon S B Ask Answer) (id other : VisitId) (arrival : Arrival) :
    (salon.visits.receive other arrival).visit? id =
      (salon.visits.visit? id).map fun visit => { visit with
        phase := if other = id ∧ visit.phase = .listening then salon.heard arrival
          else visit.phase } := by
  have stays (deaf : ∀ visit, salon.visits.visit? other = some visit → visit.phase ≠ .listening) :
      salon.visits.visit? id = (salon.visits.visit? id).map fun visit => { visit with
        phase := if other = id ∧ visit.phase = .listening then salon.heard arrival
          else visit.phase } := by
    refine (map_of_phase fun visit found => if_neg ?_).symm
    rintro ⟨rfl, listens⟩
    exact deaf visit found listens
  unfold Visits.receive
  cases found : salon.visits.visit? other with
  | none => exact stays fun visit found' => by cases found.symm.trans found'
  | some visit =>
      obtain ⟨hub, document, session, phase⟩ := visit
      have begins (hubs : Hubs S B Ask Answer) (next : Visit.Phase)
          (hears : next = salon.heard arrival) (listens : phase = .listening) :
          (Visits.setPhase { salon.visits with hubs := hubs } other next).visit? id =
            (salon.visits.visit? id).map fun visit => { visit with
              phase := if other = id ∧ visit.phase = .listening then salon.heard arrival
                else visit.phase } := by
        rw [visit?_setPhase]
        by_cases same : other = id
        · subst same
          rw [show Visits.visit? { salon.visits with hubs := hubs } other = _ from found, found]
          simp [listens, hears]
        · simp only [same, false_and, if_false]
          rfl
      cases phase with
      | listening =>
          cases arrival with
          | binary bytes => exact begins _ _ rfl rfl
          | other =>
              refine (map_of_phase fun visit found' => ?_).symm
              split
              · next takes => exact takes.2.symm
              · rfl
          | gone => exact begins _ _ rfl rfl
      | _ => exact stays fun visit found' => by cases found.symm.trans found'; nofun

theorem visit?_follow (salon : Salon S B Ask Answer) (id other : VisitId) :
    (salon.visits.follow other).visit? id =
      (salon.visits.visit? id).map fun visit => { visit with
        phase := if other = id then salon.followed visit else visit.phase } := by
  unfold Visits.follow
  cases found : salon.visits.visit? other with
  | none =>
      refine (map_of_phase fun visit found' => if_neg ?_).symm
      rintro rfl
      cases found.symm.trans found'
  | some visit =>
      have stays (still : salon.followed visit = visit.phase) :
          salon.visits.visit? id = (salon.visits.visit? id).map fun visit => { visit with
            phase := if other = id then salon.followed visit else visit.phase } := by
        refine (map_of_phase fun visit' found' => ?_).symm
        split
        · next same =>
            subst same
            cases found.symm.trans found'
            exact still
        · rfl
      have turns (visits : Visits S B Ask Answer) (same : visits.visits = salon.visits.visits)
          (next : Visit.Phase) (follows : salon.followed visit = next) :
          (visits.setPhase other next).visit? id = (salon.visits.visit? id).map fun visit =>
            { visit with phase := if other = id then salon.followed visit else visit.phase } := by
        rw [visit?_setPhase, Visits.visit?, same]
        by_cases here : other = id
        · subst here
          rw [show salon.visits.visits.get? other = _ from found, found]
          simp [follows]
        · simp only [here, if_false]
          rfl
      dsimp only
      obtain ⟨hub, document, session, phase⟩ := visit
      cases phase with
      | listening => exact stays rfl
      | «over» => exact stays rfl
      | handling job =>
          dsimp only
          cases ends : salon.visits.hubs.result? job with
          | none => exact stays (by simp only [followed, ends])
          | some outcome =>
              cases outcome with
              | ok replies => exact turns _ rfl _ (by simp only [followed, ends])
              | error error => exact turns _ rfl _ (by simp only [followed, ends])
      | leaving job =>
          dsimp only
          cases ends : salon.visits.hubs.result? job with
          | none => exact stays (by simp only [followed, ends])
          | some outcome => exact turns _ rfl _ (by simp only [followed, ends])
      | replying frames =>
          cases frames with
          | nil => exact turns _ rfl _ rfl
          | cons frame rest =>
              dsimp only
              split
              · next shut => exact turns _ rfl _ (by simp only [followed, shut, if_true])
              · next isOpen =>
                  split
                  · next room =>
                      exact turns _ rfl _ (by simp only [followed, isOpen, room, if_true]; rfl)
                  · next full => exact stays (by simp only [followed, isOpen, full]; rfl)

theorem visits_onJob (salon : Salon S B Ask Answer) (id : VisitId)
    (change : JobId → Foyer S B Ask Answer → Foyer S B Ask Answer) :
    (salon.onJob id change).visits.visits = salon.visits.visits ∧
      (salon.onJob id change).visits.nextVisit = salon.visits.nextVisit := by
  unfold onJob
  split
  · exact ⟨rfl, rfl⟩
  · exact ⟨rfl, rfl⟩

theorem visits_onOutbox (salon : Salon S B Ask Answer) (id : VisitId) (change : Outbox → Outbox) :
    (salon.onOutbox id change).visits.visits = salon.visits.visits ∧
      (salon.onOutbox id change).visits.nextVisit = salon.visits.nextVisit := by
  unfold onOutbox
  split
  · exact ⟨rfl, rfl⟩
  · exact ⟨rfl, rfl⟩

/-- A visit that was there already changes its phase at most. -/
theorem visit?_after [Lease.Store S] [Medium B Fault Ask Answer] (salon : Salon S B Ask Answer)
    (move : Move S B Fault) (id : VisitId) :
    (salon.after move).visits.visit? id =
      match salon.begun? move with
      | some visit =>
          if salon.visits.nextVisit = id then some visit else salon.visits.visit? id
      | none => (salon.visits.visit? id).map fun visit =>
          { visit with phase := salon.turned move id visit } := by
  have same {visits : Visits S B Ask Answer} (same : visits.visits = salon.visits.visits) :
      visits.visit? id =
        (salon.visits.visit? id).map fun visit => { visit with phase := visit.phase } := by
    rw [map_of_phase fun _ _ => rfl, Visits.visit?, same]
    rfl
  cases move with
  | sit hub document session =>
      simp only [after, sit, begun?]
      cases salon.shown.get? ⟨hub, document, .session session⟩ with
      | none => exact same rfl
      | some room => exact Table.get?_insert ..
  | receive other arrival => exact visit?_receive salon id other arrival
  | follow other => exact visit?_follow salon id other
  | step other moment => exact same (visits_onJob ..).1
  | perform other failure now => exact same (visits_onJob ..).1
  | resume other moment => exact same (visits_onJob ..).1
  | consult other failure => exact same (visits_onJob ..).1
  | fetch other count => exact same (visits_onOutbox ..).1
  | hangUp other => exact same (visits_onOutbox ..).1
  | _ => exact same rfl

theorem nextVisit_follow (visits : Visits S B Ask Answer) (id : VisitId) :
    (visits.follow id).nextVisit = visits.nextVisit := by
  unfold Visits.follow
  dsimp only
  repeat' split
  all_goals rfl

theorem nextVisit_after [Lease.Store S] [Medium B Fault Ask Answer] (salon : Salon S B Ask Answer)
    (move : Move S B Fault) :
    (salon.after move).visits.nextVisit =
      match salon.begun? move with
      | some _ => salon.visits.nextVisit + 1
      | none => salon.visits.nextVisit := by
  cases move with
  | sit hub document session =>
      simp only [after, sit, begun?]
      cases salon.shown.get? ⟨hub, document, .session session⟩ with
      | none => rfl
      | some room => rfl
  | receive id arrival =>
      simp only [after, Visits.receive]
      split
      · cases arrival <;> rfl
      · rfl
  | follow id => exact nextVisit_follow salon.visits id
  | step id moment => exact (visits_onJob ..).2
  | perform id failure now => exact (visits_onJob ..).2
  | resume id moment => exact (visits_onJob ..).2
  | consult id failure => exact (visits_onJob ..).2
  | fetch id count => exact (visits_onOutbox ..).2
  | hangUp id => exact (visits_onOutbox ..).2
  | _ => rfl

section

variable [Lease.Store S] [Medium B Fault Ask Answer] {salon : Salon S B Ask Answer}
  {move : Move S B Fault} {id : VisitId} {visit : Visit}

/-- A visit after a move was there before, or begins with it. -/
theorem visit_of_after (found : (salon.after move).visits.visit? id = some visit) :
    (∃ before, salon.visits.visit? id = some before ∧
        visit = { before with phase := salon.turned move id before }) ∨
      salon.begun? move = some visit ∧ id = salon.visits.nextVisit := by
  rw [visit?_after] at found
  cases begins : salon.begun? move with
  | some begun =>
      rw [begins] at found
      dsimp only at found
      split at found
      · next same =>
          cases found
          exact .inr ⟨rfl, same.symm⟩
      · obtain ⟨-, rfl, -⟩ := sit_of_begun begins
        exact .inl ⟨visit, found, rfl⟩
  | none =>
      rw [begins] at found
      obtain ⟨before, found', rfl⟩ := Option.map_eq_some_iff.mp found
      exact .inl ⟨before, found', rfl⟩

theorem visit_of_begun (begins : salon.begun? move = some visit) :
    (salon.after move).visits.visit? salon.visits.nextVisit = some visit := by
  rw [visit?_after, begins]
  exact if_pos rfl

end

/-! ## Jobs of visits -/

/-- Visits have jobs of their own. -/
structure Sound (salon : Salon S B Ask Answer) : Prop where
  numbered {id : VisitId} {visit : Visit} (found : salon.visits.visit? id = some visit) :
    id < salon.visits.nextVisit
  bounded {id : VisitId} {job : JobId} (busy : salon.job? id = some job) :
    job < salon.visits.hubs.nextJob
  apart {id other : VisitId} {job : JobId} (busy : salon.job? id = some job)
    (beside : salon.job? other = some job) : id = other
  shown {hub : HubId} {document : DocumentId} {job : JobId} {room : RoomId}
    (looked : salon.shown.get? ⟨hub, document, .job job⟩ = some room) :
    job < salon.visits.hubs.nextJob

/-- A visit goes on. -/
theorem visit_after [Lease.Store S] [Medium B Fault Ask Answer] {salon : Salon S B Ask Answer}
    {id : VisitId} {visit : Visit} (sound : salon.Sound)
    (found : salon.visits.visit? id = some visit) (move : Move S B Fault) :
    (salon.after move).visits.visit? id =
      some { visit with phase := salon.turned move id visit } := by
  rw [visit?_after]
  cases begins : salon.begun? move with
  | some begun =>
      obtain ⟨-, rfl, -⟩ := sit_of_begun begins
      dsimp only
      rw [if_neg (Nat.ne_of_gt (sound.numbered found)), found]
      rfl
  | none => exact Option.map_eq_some_iff.mpr ⟨visit, found, rfl⟩

theorem job?_eq_some_iff {salon : Salon S B Ask Answer} {id : VisitId} {job : JobId} :
    salon.job? id = some job ↔ ∃ visit, salon.visits.visit? id = some visit ∧
      (visit.phase = .handling job ∨ visit.phase = .leaving job) := by
  unfold job?
  cases salon.visits.visit? id with
  | none => simp
  | some visit =>
      obtain ⟨hub, document, session, phase⟩ := visit
      cases phase <;> simp

theorem job?_of_listening {salon : Salon S B Ask Answer} {id : VisitId} {visit : Visit}
    (found : salon.visits.visit? id = some visit) (listens : visit.phase = .listening) :
    salon.job? id = none := by
  rw [job?, found, Option.map_some, listens]

section

variable [Lease.Store S] [Medium B Fault Ask Answer] {salon : Salon S B Ask Answer}
  {move : Move S B Fault} {id : VisitId} {job : JobId}

omit [Lease.Store S] [Medium B Fault Ask Answer] in
/-- A visit that goes on begins no job. -/
theorem Follows.busy {phase next : Visit.Phase} (follows : salon.Follows phase next)
    (busy : next = .handling job ∨ next = .leaving job) :
    phase = .handling job ∨ phase = .leaving job := by
  cases follows with
  | waits => exact busy
  | _ => rcases busy with begun | begun <;> cases begun

omit [Lease.Store S] [Medium B Fault Ask Answer] in
/-- A visit has the job that it had, or it takes what arrives and begins one. -/
theorem busy_of_turned {visit : Visit}
    (busy : salon.turned move id visit = .handling job ∨
      salon.turned move id visit = .leaving job) :
    (visit.phase = .handling job ∨ visit.phase = .leaving job) ∨
      job = salon.visits.hubs.nextJob ∧ visit.phase = .listening ∧
        ∃ arrival, move = .receive id arrival ∧ arrival ≠ .other := by
  rcases turned_cases salon move id visit with ⟨arrival, takes, listens, hears⟩ | follows
  · rw [hears] at busy
    cases arrival with
    | other => rcases busy with begun | begun <;> cases begun
    | binary bytes =>
        rcases busy with begun | begun <;> cases begun
        exact .inr ⟨rfl, listens, _, takes, nofun⟩
    | gone =>
        rcases busy with begun | begun <;> cases begun
        exact .inr ⟨rfl, listens, _, takes, nofun⟩
  · exact .inl (follows.busy busy)

/-- A visit has the job that it had, or it takes what arrives and begins one. -/
theorem job?_after (busy : (salon.after move).job? id = some job) :
    salon.job? id = some job ∨ job = salon.visits.hubs.nextJob ∧
      ∃ arrival visit, move = .receive id arrival ∧ arrival ≠ .other ∧
        salon.visits.visit? id = some visit ∧ visit.phase = .listening := by
  obtain ⟨visit, found, phase⟩ := job?_eq_some_iff.mp busy
  rcases visit_of_after found with ⟨before, found', rfl⟩ | ⟨begins, -⟩
  · rcases busy_of_turned phase with same | ⟨new, listens, arrival, takes, means⟩
    · exact .inl (job?_eq_some_iff.mpr ⟨before, found', same⟩)
    · exact .inr ⟨new, arrival, before, takes, means, found', listens⟩
  · have listens := (sit_of_begun begins).1
    rcases phase with busy | busy <;> cases listens.symm.trans busy

theorem nextJob_le_after (salon : Salon S B Ask Answer) (move : Move S B Fault) :
    salon.visits.hubs.nextJob ≤ (salon.after move).visits.hubs.nextJob := by
  have happens := foyer_after salon move
  cases does : salon.atFoyer move with
  | some at' =>
      rw [does] at happens
      have same : (salon.after move).visits.hubs = (salon.foyer.after at').hubs :=
        congrArg Foyer.hubs happens
      have effect : salon.foyer.hubs.Effect at'.atHubs (salon.foyer.after at').hubs :=
        Foyer.effect_after at'
      rw [same]
      rcases Hubs.nextJob_of_effect effect with ⟨-, next⟩ | ⟨_, _, -, next, -⟩
      · exact Nat.le_of_eq next.symm
      · exact Nat.le_of_lt (Nat.lt_of_lt_of_eq (Nat.lt_succ_self _) next.symm)
  | none =>
      rw [does] at happens
      exact Nat.le_of_eq happens.nextJob.symm

/-- A job turns only with what happens at the foyer. -/
theorem turn_after {held : Job Ask Answer} (move : Move S B Fault)
    (bound : job < salon.visits.hubs.nextJob)
    (found : salon.visits.hubs.jobs.get? job = some held) :
    ∃ turned, (salon.after move).visits.hubs.jobs.get? job = some turned ∧
      (turned = held ∨ ∃ happens, salon.atFoyer move = some happens ∧
        Hubs.JobTurn job happens.atHubs held turned) := by
  have happens := foyer_after salon move
  cases does : salon.atFoyer move with
  | some at' =>
      rw [does] at happens
      have same : (salon.after move).visits.hubs = (salon.foyer.after at').hubs :=
        congrArg Foyer.hubs happens
      have effect : salon.foyer.hubs.Effect at'.atHubs (salon.foyer.after at').hubs :=
        Foyer.effect_after at'
      rw [same]
      obtain ⟨turned, found', turn⟩ := Hubs.turn_of_effect effect bound found
      exact ⟨turned, found', .inr ⟨at', rfl, turn⟩⟩
  | none =>
      rw [does] at happens
      have same : (salon.after move).visits.hubs.jobs = salon.visits.hubs.jobs := happens.jobs
      exact ⟨held, by rw [same, found], .inl rfl⟩

omit [Lease.Store S] [Medium B Fault Ask Answer] in
/-- Jobs are numbered as visits take what arrives. -/
theorem nextJob_receive {arrival : Arrival} {visit : Visit} (means : arrival ≠ .other)
    (found : salon.visits.visit? id = some visit) (listens : visit.phase = .listening) :
    (salon.visits.receive id arrival).hubs.nextJob = salon.visits.hubs.nextJob + 1 := by
  obtain ⟨hub, document, session, phase⟩ := visit
  obtain rfl : phase = .listening := listens
  simp only [Visits.receive, found]
  cases arrival with
  | other => contradiction
  | binary bytes => rfl
  | gone => rfl

/-- A job that has looked up a room after a move had done so before, or it is the job of a
visit. -/
theorem shown_after {hub : HubId} {document : DocumentId} {room : RoomId}
    (looked : (salon.after move).shown.get? ⟨hub, document, .job job⟩ = some room) :
    (∃ room, salon.shown.get? ⟨hub, document, .job job⟩ = some room) ∨
      ∃ id, salon.job? id = some job := by
  have happens := foyer_after salon move
  cases does : salon.atFoyer move with
  | none =>
      rw [does] at happens
      have same : (salon.after move).shown = salon.shown := happens.visits
      exact .inl ⟨room, same ▸ looked⟩
  | some at' =>
      rw [does] at happens
      have same : (salon.after move).shown = (salon.foyer.after at').visits :=
        congrArg Foyer.visits happens
      rw [same] at looked
      refine (Foyer.looked_after looked).imp_right ?_
      rintro ⟨moment, rfl⟩
      obtain ⟨id, -, busy⟩ := move_of_atFoyer does
      exact ⟨id, busy⟩

/-- Visits keep jobs of their own. -/
theorem Sound.after (sound : salon.Sound) (move : Move S B Fault) : (salon.after move).Sound := by
  have later := nextJob_le_after salon move
  constructor
  case numbered =>
    intro id visit found
    rw [nextVisit_after]
    rcases visit_of_after found with ⟨before, found', -⟩ | ⟨begins, rfl⟩
    · have old := sound.numbered found'
      cases salon.begun? move with
      | some begun => exact Nat.lt_succ_of_lt old
      | none => exact old
    · rw [begins]
      exact Nat.lt_succ_self _
  case bounded =>
    intro id job busy
    rcases job?_after busy with same | ⟨rfl, arrival, visit, takes, means, found, listens⟩
    · exact Nat.lt_of_lt_of_le (sound.bounded same) later
    · subst takes
      exact Nat.lt_of_lt_of_eq (Nat.lt_succ_self _) (nextJob_receive means found listens).symm
  case apart =>
    intro id other job busy beside
    rcases job?_after busy with same | ⟨rfl, arrival, visit, takes, means, found, listens⟩
    · rcases job?_after beside with same' | ⟨rfl, -⟩
      · exact sound.apart same same'
      · exact absurd (sound.bounded same) (Nat.lt_irrefl _)
    · rcases job?_after beside with same' | ⟨-, _, _, takes', -⟩
      · exact absurd (sound.bounded same') (Nat.lt_irrefl _)
      · cases takes.symm.trans takes'
        rfl
  case shown =>
    intro hub document job room looked
    rcases shown_after looked with ⟨room, before⟩ | ⟨id, busy⟩
    · exact Nat.lt_of_lt_of_le (sound.shown before) later
    · exact Nat.lt_of_lt_of_le (sound.bounded busy) later

end

end Salon

end Coedit
