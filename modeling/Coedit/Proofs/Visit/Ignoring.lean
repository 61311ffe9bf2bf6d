import Coedit.Proofs.Visit.Phases

/-!
# Frames that are ignored

Text, bytes that are no frame, and auth frames leave no trace: a run without them is a run,
and nobody can tell it from the run with them.  The two differ only in visits that are busy
with an ignored frame in the one and listen in the other, and in the numbers of jobs.
-/

namespace Coedit

/-- Whether what arrives is ignored. -/
def Arrival.isIgnored : Arrival → Bool
  | .binary bytes =>
      match Frame.decode bytes with
      | .ok frame => frame.kind == .auth
      | .error _ => true
  | .other => true
  | .gone => false

namespace Hub

/-- What comes of handling when nothing is to be done. -/
def Outcome.IsSilent : Outcome → Prop
  | .ok frames => frames = []
  | .error _ => True

/-- An ignored frame is handled as soon as its job begins. -/
theorem handleBytes_of_isIgnored {bytes : Bytes} (document : DocumentId) (session : SessionId)
    (ignored : (Arrival.binary bytes).isIgnored = true) :
    ∃ outcome : Outcome, handleBytes document session bytes = .done outcome ∧ outcome.IsSilent := by
  simp only [Arrival.isIgnored] at ignored
  unfold handleBytes
  cases decoded : Frame.decode bytes with
  | error error => exact ⟨_, rfl, trivial⟩
  | ok frame =>
      rw [decoded] at ignored
      have auth : frame.kind = .auth := beq_iff_eq.mp ignored
      refine ⟨.ok [], ?_, rfl⟩
      dsimp only
      rw [handle, auth]

end Hub

namespace Hubs

variable {S B Ask : Type} {Answer : Ask → Type}

theorem Alike.modifyCache {same : JobId → JobId → Prop} {hubs hubs' : Hubs S B Ask Answer}
    (alike : Alike same hubs hubs') (home : HubId) (change : Cache → Cache) :
    Alike same (hubs.modifyCache home change) (hubs'.modifyCache home change) := by
  unfold Hubs.modifyCache
  rw [alike.held]
  cases hubs.hubs.get? home with
  | none => exact alike
  | some hub => exact alike.setHub home _

end Hubs

namespace Salon

variable {S B Fault Ask : Type} {Answer : Ask → Type}

/-- Whether a move is an arrival that is ignored. -/
def Move.isIgnored : Move S B Fault → Bool
  | .receive _ arrival => arrival.isIgnored
  | _ => false

/-! ## Alike salons -/

/-- Whether jobs are those of one visit. -/
def SameJob (salon salon' : Salon S B Ask Answer) (job job' : JobId) : Prop :=
  ∃ id, salon.job? id = some job ∧ salon'.job? id = some job'

/-- Whether a visit is as far in one salon as in another, unless it is busy with an ignored
frame in the first: then it listens in the second. -/
inductive AlikePhase (salon : Salon S B Ask Answer) : Visit.Phase → Visit.Phase → Prop where
  | listening : AlikePhase salon .listening .listening
  | handling (job job' : JobId) : AlikePhase salon (.handling job) (.handling job')
  | replying (frames : List Frame) : AlikePhase salon (.replying frames) (.replying frames)
  | leaving (job job' : JobId) : AlikePhase salon (.leaving job) (.leaving job')
  | over : AlikePhase salon .over .over
  | ignoring {job : JobId} {home : HubId} {outcome : Hub.Outcome}
      (done : salon.visits.hubs.jobs.get? job = some ⟨home, .done outcome, none⟩)
      (silent : outcome.IsSilent) : AlikePhase salon (.handling job) .listening
  | ignored : AlikePhase salon (.replying []) .listening

/-- Whether two visits are one and as far as each other. -/
structure AlikeVisit (salon : Salon S B Ask Answer) (visit visit' : Visit) : Prop where
  hub : visit'.hub = visit.hub
  document : visit'.document = visit.document
  session : visit'.session = visit.session
  phase : AlikePhase salon visit.phase visit'.phase

/-- Salons that are the same but for ignored frames in the first. -/
structure Alike (salon salon' : Salon S B Ask Answer) : Prop where
  foyer : Foyer.Alike (SameJob salon salon') salon.foyer salon'.foyer
  next : salon'.visits.nextVisit = salon.visits.nextVisit
  visits (id : VisitId) :
    Option.Rel (AlikeVisit salon) (salon.visits.visit? id) (salon'.visits.visit? id)

section

variable {salon salon' : Salon S B Ask Answer} {id : VisitId} {job job' : JobId}

/-- Jobs of visits have at most one counterpart each. -/
theorem oneToOne_sameJob (sound : salon.Sound) (sound' : salon'.Sound) :
    OneToOne (SameJob salon salon') := by
  rintro job job' other other' ⟨id, busy, busy'⟩ ⟨beside, also, also'⟩
  constructor
  · rintro rfl
    obtain rfl := sound.apart busy also
    exact Option.some.inj (busy'.symm.trans also')
  · rintro rfl
    obtain rfl := sound'.apart busy' also'
    exact Option.some.inj (busy.symm.trans also)

namespace Alike

theorem visit (alike : Alike salon salon') {visit : Visit}
    (found : salon.visits.visit? id = some visit) :
    ∃ visit', salon'.visits.visit? id = some visit' ∧ AlikeVisit salon visit visit' := by
  have visits := alike.visits id
  rw [found] at visits
  cases found' : salon'.visits.visit? id with
  | none =>
      rw [found'] at visits
      cases visits
  | some visit' =>
      rw [found'] at visits
      cases visits with
      | some visits => exact ⟨visit', rfl, visits⟩

theorem visit_none (alike : Alike salon salon') (absent : salon.visits.visit? id = none) :
    salon'.visits.visit? id = none := by
  have visits := alike.visits id
  rw [absent] at visits
  cases found' : salon'.visits.visit? id with
  | none => rfl
  | some visit' =>
      rw [found'] at visits
      cases visits

/-- A visit has a job in both salons, or the second has none and that of the first is done. -/
theorem job? (alike : Alike salon salon') (id : VisitId) :
    (∃ job job', salon.job? id = some job ∧ salon'.job? id = some job') ∨
      salon'.job? id = none ∧ ∀ job, salon.job? id = some job → ∃ home outcome,
        salon.visits.hubs.jobs.get? job = some ⟨home, .done outcome, none⟩ := by
  unfold Salon.job?
  cases found : salon.visits.visit? id with
  | none =>
      rw [alike.visit_none found]
      exact .inr ⟨rfl, nofun⟩
  | some visit =>
      obtain ⟨visit', found', visits⟩ := alike.visit found
      rw [found', Option.map_some, Option.map_some]
      have phase := visits.phase
      generalize visit.phase = now at phase
      generalize visit'.phase = now' at phase
      cases phase with
      | handling job job' => exact .inl ⟨job, job', rfl, rfl⟩
      | leaving job job' => exact .inl ⟨job, job', rfl, rfl⟩
      | ignoring done silent =>
          refine .inr ⟨rfl, fun job busy => ?_⟩
          cases busy
          exact ⟨_, _, done⟩
      | listening => exact .inr ⟨rfl, nofun⟩
      | replying frames => exact .inr ⟨rfl, nofun⟩
      | «over» => exact .inr ⟨rfl, nofun⟩
      | ignored => exact .inr ⟨rfl, nofun⟩

theorem shown (alike : Alike salon salon') (hub : HubId) (document : DocumentId)
    (session : SessionId) : salon'.shown.get? ⟨hub, document, .session session⟩ =
      salon.shown.get? ⟨hub, document, .session session⟩ :=
  alike.foyer.visits.shown (.other (by simp))

theorem outbox (alike : Alike salon salon') {visit visit' : Visit}
    (visits : AlikeVisit salon visit visit') :
    salon'.visits.outbox visit' = salon.visits.outbox visit := by
  unfold Visits.outbox
  rw [visits.hub, visits.session, show salon'.visits.hubs.hubs = salon.visits.hubs.hubs from
    alike.foyer.hubs.held]

/-! ### Foyers of alike salons -/

/-- What the jobs of visits do in alike salons is alike. -/
theorem onJob (alike : Alike salon salon') (id : VisitId)
    {change : JobId → Foyer S B Ask Answer → Foyer S B Ask Answer}
    (carries : ∀ job job', SameJob salon salon' job job' →
      Foyer.Alike (SameJob salon salon') (change job salon.foyer) (change job' salon'.foyer))
    (rests : ∀ job home outcome,
      salon.visits.hubs.jobs.get? job = some ⟨home, .done outcome, none⟩ →
        change job salon.foyer = salon.foyer) :
    Foyer.Alike (SameJob salon salon') (salon.onJob id change).foyer
      (salon'.onJob id change).foyer := by
  unfold Salon.onJob
  rcases alike.job? id with ⟨job, job', busy, busy'⟩ | ⟨idle', done⟩
  · rw [busy, busy']
    exact carries job job' ⟨id, busy, busy'⟩
  · rw [idle']
    cases busy : salon.job? id with
    | none => exact alike.foyer
    | some job =>
        obtain ⟨home, outcome, held⟩ := done job busy
        dsimp only
        rw [rests job home outcome held]
        exact alike.foyer

theorem modifyHubs (alike : Alike salon salon')
    {change : Hubs S B Ask Answer → Hubs S B Ask Answer}
    (carries : Hubs.Alike (SameJob salon salon') (change salon.visits.hubs)
      (change salon'.visits.hubs)) :
    Foyer.Alike (SameJob salon salon') (salon.modifyHubs change).foyer
      (salon'.modifyHubs change).foyer :=
  ⟨carries, alike.foyer.visits⟩

theorem onOutbox (alike : Alike salon salon') (id : VisitId) (change : Outbox → Outbox) :
    Foyer.Alike (SameJob salon salon') (salon.onOutbox id change).foyer
      (salon'.onOutbox id change).foyer := by
  unfold Salon.onOutbox
  cases found : salon.visits.visit? id with
  | none =>
      rw [alike.visit_none found]
      exact alike.foyer
  | some visit =>
      obtain ⟨visit', found', visits⟩ := alike.visit found
      rw [found']
      dsimp only
      rw [visits.hub, visits.session]
      exact alike.modifyHubs (alike.foyer.hubs.modifyRoster _ _)

/-- A visit sends the same reply in both salons. -/
theorem sends? (alike : Alike salon salon') (id : VisitId) :
    salon'.sends? id = salon.sends? id := by
  unfold Salon.sends?
  cases found : salon.visits.visit? id with
  | none => rw [alike.visit_none found]
  | some visit =>
      obtain ⟨visit', found', visits⟩ := alike.visit found
      have outbox := alike.outbox visits
      rw [found']
      obtain ⟨hub, document, session, phase⟩ := visit
      obtain ⟨hub', document', session', phase'⟩ := visit'
      obtain ⟨rfl, rfl, rfl, phases⟩ := visits
      dsimp only at phases
      cases phases with
      | replying frames =>
          cases frames with
          | nil => rfl
          | cons reply rest =>
              dsimp only
              rw [outbox]
      | _ => rfl

/-- When no visit takes what arrives, the foyers stay alike. -/
theorem foyer_after [Lease.Store S] [Medium B Fault Ask Answer] (alike : Alike salon salon')
    (sound : salon.Sound) (sound' : salon'.Sound) {move : Move S B Fault}
    (deaf : ∀ id arrival, move ≠ .receive id arrival) :
    Foyer.Alike (SameJob salon salon') (salon.after move).foyer (salon'.after move).foyer := by
  have oneToOne : OneToOne (SameJob salon salon') := oneToOne_sameJob sound sound'
  have idle {job : JobId} {home : HubId} {outcome : Hub.Outcome}
      (held : salon.visits.hubs.jobs.get? job = some ⟨home, .done outcome, none⟩) :
      salon.visits.hubs.operation? job = none := by
    rw [Hubs.operation?, held]
    rfl
  cases move with
  | come hub document => exact alike.foyer.arrive oneToOne hub document
  | sit hub document session =>
      have sits := alike.foyer.sit oneToOne hub document session
      simp only [after, Salon.sit]
      rw [alike.shown hub document session]
      cases salon.shown.get? ⟨hub, document, .session session⟩ with
      | none => exact alike.foyer
      | some room => exact sits
  | receive id arrival => exact absurd rfl (deaf id arrival)
  | follow id =>
      show Foyer.Alike _ ⟨(salon.visits.follow id).hubs, salon.shown⟩
        ⟨(salon'.visits.follow id).hubs, salon'.shown⟩
      rw [foyer_follow, foyer_follow, alike.sends? id]
      cases salon.sends? id with
      | none => exact alike.foyer
      | some sent =>
          obtain ⟨hub, session, reply⟩ := sent
          exact ⟨alike.foyer.hubs.modifyRoster hub fun roster =>
            roster.modifyOutbox session (·.offer reply), alike.foyer.visits⟩
  | step id moment =>
      refine alike.onJob id (fun job job' same => alike.foyer.step oneToOne same moment) ?_
      intro job home outcome held
      have held' : salon.foyer.hubs.jobs.get? job = some ⟨home, .done outcome, none⟩ := held
      simp only [Foyer.step, Hubs.step, held']
      cases salon.foyer.hubs.hubs.get? home <;> rfl
  | perform id failure now =>
      refine alike.onJob id (fun job job' same =>
        ⟨alike.foyer.hubs.performCall same failure now, alike.foyer.visits⟩) ?_
      intro job home outcome held
      simp only [Hubs.performCall, show salon.foyer.hubs.operation? job = none from idle held]
  | resume id moment =>
      refine alike.onJob id
        (fun job job' same => ⟨alike.foyer.hubs.resume same moment, alike.foyer.visits⟩) ?_
      intro job home outcome held
      simp only [Hubs.resume, show salon.foyer.hubs.operation? job = none from idle held]
  | consult id failure =>
      refine alike.onJob id (fun job job' same =>
        ⟨alike.foyer.hubs.consult oneToOne same failure, alike.foyer.visits⟩) ?_
      intro job home outcome held
      have held' : salon.foyer.hubs.jobs.get? job = some ⟨home, .done outcome, none⟩ := held
      simp only [Hubs.consult, held']
  | fetch id count => exact alike.onOutbox id _
  | hangUp id => exact alike.onOutbox id _
  | look guest hub document => exact alike.foyer.visit oneToOne guest hub document
  | quit guest hub document => exact alike.foyer.quit oneToOne guest hub document
  | site change =>
      refine alike.modifyHubs ?_
      rw [show salon'.visits.hubs.site = salon.visits.hubs.site from alike.foyer.hubs.site]
      exact alike.foyer.hubs.setSite _
  | drift change =>
      refine alike.modifyHubs ?_
      rw [show salon'.visits.hubs.medium = salon.visits.hubs.medium from alike.foyer.hubs.medium]
      exact alike.foyer.hubs.setMedium _
  | cache hub change => exact alike.modifyHubs (alike.foyer.hubs.modifyCache hub change)

/-! ### Visits of alike salons -/

/-- A visit that goes on is as far in one salon as in the other afterwards, too. -/
theorem followed (alike : Alike salon salon') {visit visit' : Visit}
    (found : salon.visits.visit? id = some visit)
    (found' : salon'.visits.visit? id = some visit')
    (visits : AlikeVisit salon visit visit') :
    AlikePhase salon (salon.followed visit) (salon'.followed visit') := by
  have outbox := alike.outbox visits
  have same {job job' : JobId} (phase : visit.phase = .handling job ∨ visit.phase = .leaving job)
      (phase' : visit'.phase = .handling job' ∨ visit'.phase = .leaving job') :
      salon'.visits.hubs.result? job' = salon.visits.hubs.result? job :=
    alike.foyer.hubs.result? ⟨id, job?_eq_some_iff.mpr ⟨visit, found, phase⟩,
      job?_eq_some_iff.mpr ⟨visit', found', phase'⟩⟩
  have phases := visits.phase
  unfold Salon.followed
  rw [outbox]
  generalize visit.phase = phase at same phases
  generalize visit'.phase = phase' at same phases
  cases phases with
  | listening => exact .listening
  | handling job job' =>
      dsimp only
      rw [same (.inl rfl) (.inl rfl)]
      cases salon.visits.hubs.result? job with
      | none => exact .handling job job'
      | some outcome =>
          cases outcome with
          | ok replies => exact .replying replies
          | error error => exact .listening
  | replying frames =>
      cases frames with
      | nil => exact .listening
      | cons reply rest =>
          dsimp only
          split
          · exact .listening
          · split
            · exact .replying rest
            · exact .replying (reply :: rest)
  | leaving job job' =>
      dsimp only
      rw [same (.inr rfl) (.inr rfl)]
      cases salon.visits.hubs.result? job with
      | none => exact .leaving job job'
      | some outcome => exact .over
  | «over» => exact .over
  | @ignoring job home outcome done silent =>
      have ends : salon.visits.hubs.result? job = some outcome := by
        rw [Hubs.result?, done]
      dsimp only
      rw [ends]
      cases outcome with
      | ok replies =>
          obtain rfl : replies = [] := silent
          exact .ignored
      | error error => exact .listening
  | ignored => exact .listening

/-- A visit that takes what is not ignored does so in both salons. -/
theorem heard (salon salon' : Salon S B Ask Answer) {arrival : Arrival}
    (heeded : arrival.isIgnored = false) :
    AlikePhase salon (salon.heard arrival) (salon'.heard arrival) := by
  cases arrival with
  | binary bytes => exact .handling ..
  | other => cases heeded
  | gone => exact .leaving ..

/-- A visit that takes what arrives listens in both salons. -/
theorem listens (alike : Alike salon salon') {move : Move S B Fault}
    (permits : salon.Permits move) {arrival : Arrival} (takes : move = .receive id arrival) :
    ∃ visit visit', salon.visits.visit? id = some visit ∧ visit.phase = .listening ∧
      salon'.visits.visit? id = some visit' ∧ visit'.phase = .listening := by
  subst takes
  obtain ⟨visit, found, listens⟩ := Option.map_eq_some_iff.mp permits
  obtain ⟨visit', found', visits⟩ := alike.visit found
  refine ⟨visit, visit', found, listens, found', ?_⟩
  have phases := visits.phase
  rw [listens] at phases
  generalize visit'.phase = phase' at phases
  cases phases
  rfl

/-- What may happen in the first salon may happen in the second. -/
theorem permits (alike : Alike salon salon') {move : Move S B Fault}
    (permits : salon.Permits move) : salon'.Permits move := by
  cases move with
  | receive id arrival =>
      obtain ⟨-, visit', -, -, found', listens'⟩ := alike.listens permits rfl
      exact Option.map_eq_some_iff.mpr ⟨visit', found', listens'⟩
  | _ => trivial

theorem turned (alike : Alike salon salon') {move : Move S B Fault}
    (permits : salon.Permits move) (heeded : move.isIgnored = false) {visit visit' : Visit}
    (found : salon.visits.visit? id = some visit)
    (found' : salon'.visits.visit? id = some visit')
    (visits : AlikeVisit salon visit visit') :
    AlikePhase salon (salon.turned move id visit) (salon'.turned move id visit') := by
  cases move with
  | receive other arrival =>
      simp only [Salon.turned]
      by_cases same : other = id
      · subst same
        obtain ⟨_, _, there, listens, there', listens'⟩ := alike.listens permits rfl
        cases found.symm.trans there
        cases found'.symm.trans there'
        rw [if_pos ⟨rfl, listens⟩, if_pos ⟨rfl, listens'⟩]
        exact heard salon salon' heeded
      · rw [if_neg (mt And.left same), if_neg (mt And.left same)]
        exact visits.phase
  | follow other =>
      simp only [Salon.turned]
      split
      · exact alike.followed found found' visits
      · exact visits.phase
  | _ => exact visits.phase

end Alike

section

variable [Lease.Store S] [Medium B Fault Ask Answer] {move : Move S B Fault}

/-- A job that is done stays as it is. -/
theorem get?_of_done {home : HubId} {outcome : Hub.Outcome} (move : Move S B Fault)
    (bound : job < salon.visits.hubs.nextJob)
    (held : salon.visits.hubs.jobs.get? job = some ⟨home, .done outcome, none⟩) :
    (salon.after move).visits.hubs.jobs.get? job = some ⟨home, .done outcome, none⟩ := by
  obtain ⟨turned, found, same | ⟨_, _, turn⟩⟩ := turn_after move bound held
  · rw [found, same]
  · rw [found, turn.of_done rfl]

/-- How far visits are is told as well by the salon after a move, unless a job is done only
after it. -/
theorem AlikePhase.after {phase phase' : Visit.Phase} (alike : AlikePhase salon phase phase')
    (bounded : ∀ job, phase = .handling job → phase' = .listening →
      job < salon.visits.hubs.nextJob)
    (move : Move S B Fault) : AlikePhase (salon.after move) phase phase' := by
  cases alike with
  | listening => exact .listening
  | handling job job' => exact .handling job job'
  | replying frames => exact .replying frames
  | leaving job job' => exact .leaving job job'
  | «over» => exact .over
  | ignoring done silent => exact .ignoring (get?_of_done move (bounded _ rfl rfl) done) silent
  | ignored => exact .ignored

/-! ### Moves in alike salons -/

namespace Alike

/-- Jobs that are those of one visit after a move were so before, or both begin with it. -/
theorem sameJob_of_after (alike : Alike salon salon') (permits : salon.Permits move)
    (same : SameJob (salon.after move) (salon'.after move) job job') :
    SameJob salon salon' job job' ∨
      (job = salon.visits.hubs.nextJob ∧ job' = salon'.visits.hubs.nextJob) ∧
        ∃ id arrival, move = .receive id arrival := by
  obtain ⟨id, busy, busy'⟩ := same
  rcases job?_after busy with before | ⟨new, arrival, visit, takes, -⟩
  · rcases job?_after busy' with before' | ⟨-, arrival, visit, takes, -⟩
    · exact .inl ⟨id, before, before'⟩
    · obtain ⟨visit, -, found, listens, -⟩ := alike.listens permits takes
      cases before.symm.trans (job?_of_listening found listens)
  · rcases job?_after busy' with before' | ⟨new', -⟩
    · obtain ⟨-, visit', -, -, found', listens'⟩ := alike.listens permits takes
      cases before'.symm.trans (job?_of_listening found' listens')
    · exact .inr ⟨⟨new, new'⟩, id, arrival, takes⟩

/-- What is not ignored is handled in both salons. -/
theorem foyer_receive (alike : Alike salon salon') (sound : salon.Sound) (sound' : salon'.Sound)
    {arrival : Arrival} (permits : salon.Permits (.receive id arrival : Move S B Fault))
    (heeded : arrival.isIgnored = false) :
    Foyer.Alike (SameJob (salon.after (.receive id arrival : Move S B Fault))
        (salon'.after (.receive id arrival : Move S B Fault)))
      (salon.after (.receive id arrival : Move S B Fault)).foyer
      (salon'.after (.receive id arrival : Move S B Fault)).foyer := by
  obtain ⟨visit, visit', found, listens, found', listens'⟩ := alike.listens permits rfl
  obtain ⟨_, there, visits⟩ := alike.visit found
  cases found'.symm.trans there
  obtain ⟨work, works⟩ : ∃ work, arrival.work? visit.document visit.session = some work := by
    cases arrival with
    | binary bytes => exact ⟨_, rfl⟩
    | other => cases heeded
    | gone => exact ⟨_, rfl⟩
  rw [foyer_receive_of_listening found listens, foyer_receive_of_listening found' listens',
    visits.hub, visits.document, visits.session, works]
  have bounded {job job' : JobId} (same : SameJob salon salon' job job') :
      job < salon.visits.hubs.nextJob ∧ job' < salon'.visits.hubs.nextJob := by
    obtain ⟨id, busy, busy'⟩ := same
    exact ⟨sound.bounded busy, sound'.bounded busy'⟩
  constructor
  · refine alike.foyer.hubs.begin ?_ ?_ visit.hub work
    · intro job job' same
      exact ⟨Nat.ne_of_lt (bounded same).1, Nat.ne_of_lt (bounded same).2⟩
    · intro job job' same
      exact (alike.sameJob_of_after permits same).imp_right And.left
  · refine alike.foyer.visits.extend fun job job' same => ?_
    refine (alike.sameJob_of_after permits same).imp_right ?_
    rintro ⟨⟨rfl, rfl⟩, -⟩ home document
    constructor
    · exact Option.eq_none_iff_forall_ne_some.mpr fun room looked =>
        absurd (sound.shown looked) (Nat.lt_irrefl _)
    · exact Option.eq_none_iff_forall_ne_some.mpr fun room looked =>
        absurd (sound'.shown looked) (Nat.lt_irrefl _)

omit [Lease.Store S] [Medium B Fault Ask Answer] in
theorem begun? (alike : Alike salon salon') (move : Move S B Fault) :
    salon'.begun? move = salon.begun? move := by
  cases move with
  | sit hub document session =>
      simp only [Salon.begun?]
      rw [alike.shown]
  | _ => rfl

omit [Lease.Store S] [Medium B Fault Ask Answer] in
/-- A visit that listens in the second salon only has a job already. -/
theorem bounded_of_turned (alike : Alike salon salon') (sound : salon.Sound)
    (permits : salon.Permits move) {visit visit' : Visit}
    (found : salon.visits.visit? id = some visit)
    (found' : salon'.visits.visit? id = some visit')
    (busy : salon.turned move id visit = .handling job)
    (listens : salon'.turned move id visit' = .listening) :
    job < salon.visits.hubs.nextJob := by
  rcases busy_of_turned (.inl busy) with before | ⟨-, -, arrival, rfl, means⟩
  · exact sound.bounded (job?_eq_some_iff.mpr ⟨visit, found, before⟩)
  · obtain ⟨-, _, -, -, there', listens'⟩ := alike.listens permits rfl
    cases found'.symm.trans there'
    rw [Salon.turned, if_pos ⟨rfl, listens'⟩] at listens
    cases arrival with
    | binary bytes => cases listens
    | other => contradiction
    | gone => cases listens

/-- How far visits are as each other is told as well by the salon after a move. -/
theorem visits_before (alike : Alike salon salon') (sound : salon.Sound) (move : Move S B Fault)
    (id : VisitId) : Option.Rel (AlikeVisit (salon.after move)) (salon.visits.visit? id)
      (salon'.visits.visit? id) := by
  cases found : salon.visits.visit? id with
  | none =>
      rw [alike.visit_none found]
      exact .none
  | some visit =>
      obtain ⟨visit', found', visits⟩ := alike.visit found
      rw [found']
      refine .some ⟨visits.hub, visits.document, visits.session, visits.phase.after ?_ move⟩
      exact fun job busy _ => sound.bounded (job?_eq_some_iff.mpr ⟨visit, found, .inl busy⟩)

/-- Salons stay alike with a move that is none of the ignored arrivals. -/
theorem after (alike : Alike salon salon') (sound : salon.Sound) (sound' : salon'.Sound)
    (permits : salon.Permits move) (heeded : move.isIgnored = false) :
    Alike (salon.after move) (salon'.after move) where
  foyer := by
    by_cases takes : ∃ id arrival, move = .receive id arrival
    · obtain ⟨id, arrival, rfl⟩ := takes
      exact alike.foyer_receive sound sound' permits heeded
    · have deaf : ∀ id arrival, move ≠ .receive id arrival :=
        fun id arrival takes' => takes ⟨id, arrival, takes'⟩
      refine (alike.foyer_after sound sound' deaf).mono fun job job' same => ?_
      rcases alike.sameJob_of_after permits same with before | ⟨-, takes'⟩
      · exact before
      · exact absurd takes' takes
  next := by
    rw [nextVisit_after, nextVisit_after, alike.begun?, alike.next]
  visits := by
    intro id
    rw [visit?_after, visit?_after, alike.begun?, alike.next]
    cases begins : salon.begun? move with
    | some begun =>
        dsimp only
        split
        · exact .some ⟨rfl, rfl, rfl, (sit_of_begun begins).1 ▸ .listening⟩
        · exact alike.visits_before sound move id
    | none =>
        dsimp only
        cases found : salon.visits.visit? id with
        | none =>
            rw [alike.visit_none found]
            exact .none
        | some visit =>
            obtain ⟨visit', found', visits⟩ := alike.visit found
            rw [found']
            refine .some ⟨visits.hub, visits.document, visits.session, ?_⟩
            exact (alike.turned permits heeded found found' visits).after
              (fun job => alike.bounded_of_turned sound permits found found') move

/-- A job that begins for what arrives in the first salon only has no counterpart. -/
theorem sameJob_of_left (alike : Alike salon salon') (permits : salon.Permits move)
    (same : SameJob (salon.after move) salon' job job') : SameJob salon salon' job job' := by
  obtain ⟨other, busy, busy'⟩ := same
  rcases job?_after busy with before | ⟨-, arrival', visit, takes', -⟩
  · exact ⟨other, before, busy'⟩
  · obtain ⟨-, visit', -, -, found', listens'⟩ := alike.listens permits takes'
    cases busy'.symm.trans (job?_of_listening found' listens')

/-- An ignored frame only changes how far its visit is in the first salon. -/
theorem ignore_frame (alike : Alike salon salon') (sound : salon.Sound)
    (permits : salon.Permits move) {bytes : Bytes} (takes : move = .receive id (.binary bytes))
    (ignored : (Arrival.binary bytes).isIgnored = true) : Alike (salon.after move) salon' := by
  obtain ⟨visit, visit', found, listens, found', listens'⟩ := alike.listens permits takes
  obtain ⟨outcome, done, silent⟩ :=
    Hub.handleBytes_of_isIgnored visit.document visit.session ignored
  have begins : (salon.after move).foyer =
      ⟨(salon.visits.hubs.begin visit.hub (.done outcome)).2, salon.shown⟩ := by
    rw [takes, foyer_receive_of_listening found listens, ← done]
    rfl
  have held : (salon.after move).visits.hubs.jobs.get? salon.visits.hubs.nextJob =
      some ⟨visit.hub, .done outcome, none⟩ := by
    rw [takes, job_of_receive found listens rfl, ← done]
  have still : salon.begun? move = none := by
    rw [takes]
    rfl
  constructor
  case foyer =>
    rw [begins]
    have fewer (job job' : JobId) (same : SameJob (salon.after move) salon' job job') :
        SameJob salon salon' job job' := alike.sameJob_of_left permits same
    refine ⟨(alike.foyer.hubs.begin_left ?_ _ _).mono fewer, alike.foyer.visits.mono fewer⟩
    rintro job job' ⟨other, busy, -⟩
    exact Nat.ne_of_lt (sound.bounded busy)
  case next => rw [nextVisit_after, still, alike.next]
  case visits =>
    intro other
    have visits := alike.visits_before sound move other
    rw [visit?_after, still]
    dsimp only
    by_cases same : id = other
    · subst same
      rw [found, found'] at visits ⊢
      obtain ⟨⟨sameHub, sameDocument, sameSession, -⟩⟩ := visits
      refine .some ⟨sameHub, sameDocument, sameSession, ?_⟩
      have hears : salon.turned move id visit = .handling salon.visits.hubs.nextJob := by
        rw [takes, Salon.turned, if_pos ⟨rfl, listens⟩]
        rfl
      show AlikePhase (salon.after move) (salon.turned move id visit) visit'.phase
      rw [hears, listens']
      exact .ignoring held silent
    · rw [map_of_phase fun visit _ => ?_]
      · exact visits
      · simp only [takes, Salon.turned, same, false_and, if_false]

/-- What is ignored only changes how far its visit is in the first salon. -/
theorem ignore (alike : Alike salon salon') (sound : salon.Sound)
    (permits : salon.Permits move) (ignored : move.isIgnored = true) :
    Alike (salon.after move) salon' := by
  cases move with
  | receive id arrival =>
      cases arrival with
      | gone => cases ignored
      | binary bytes => exact alike.ignore_frame sound permits rfl ignored
      | other =>
          obtain ⟨visit, -, found, listens, -⟩ := alike.listens permits rfl
          have same : salon.after (.receive id .other : Move S B Fault) = salon := by
            obtain ⟨hub, document, session, phase⟩ := visit
            obtain rfl : phase = .listening := listens
            simp only [Salon.after, Visits.receive, found]
          rwa [same]
  | _ => cases ignored

/-! ### Alike runs -/

omit [Lease.Store S] [Medium B Fault Ask Answer] in
theorem left?_of_alike {same : JobId → JobId → Prop} {foyer foyer' : Foyer S B Ask Answer}
    (alike : Foyer.Alike same foyer foyer') (paired : same job job') :
    left? foyer' job' = left? foyer job := by
  unfold left?
  rw [alike.hubs.jobs paired]
  split
  · next home document session next' =>
      rw [Hubs.roster?, Hubs.roster?, alike.hubs.held, alike.visits.shown (.job paired)]
  · rfl

omit [Medium B Fault Ask Answer] in
/-- The same is told of a move in both salons. -/
theorem told? (alike : Alike salon salon') (move : Move S B Fault) :
    salon'.told? move = salon.told? move := by
  have hubs := alike.foyer.hubs
  cases move with
  | sit hub document session =>
      simp only [Salon.told?]
      rw [alike.shown]
  | step id moment =>
      simp only [Salon.told?]
      rcases alike.job? id with ⟨job, job', busy, busy'⟩ | ⟨idle', done⟩
      · rw [busy, busy', Option.bind_some, Option.bind_some]
        exact left?_of_alike alike.foyer ⟨id, busy, busy'⟩
      · rw [idle']
        cases busy : salon.job? id with
        | none => rfl
        | some job =>
            obtain ⟨home, outcome, held⟩ := done job busy
            have held' : salon.foyer.hubs.jobs.get? job = some ⟨home, .done outcome, none⟩ := held
            rw [Option.bind_some, left?, held']
            rfl
  | perform id failure now =>
      simp only [Salon.told?]
      rcases alike.job? id with ⟨job, job', busy, busy'⟩ | ⟨idle', done⟩
      · rw [busy, busy', Option.bind_some, Option.bind_some,
          show salon'.visits.hubs.operation? job' = salon.visits.hubs.operation? job from
            hubs.operation? ⟨id, busy, busy'⟩,
          show salon'.visits.hubs.site = salon.visits.hubs.site from hubs.site]
      · rw [idle']
        cases busy : salon.job? id with
        | none => rfl
        | some job =>
            obtain ⟨home, outcome, held⟩ := done job busy
            rw [Option.bind_some, Hubs.operation?, held]
            rfl
  | fetch id count =>
      simp only [Salon.told?]
      cases found : salon.visits.visit? id with
      | none =>
          rw [alike.visit_none found]
          rfl
      | some visit =>
          obtain ⟨visit', found', visits⟩ := alike.visit found
          rw [found', Option.map_some, Option.map_some, alike.outbox visits]
  | _ => rfl

/-- A run without what is ignored is a run, and nobody can tell the two. -/
theorem run (alike : Alike salon salon') (sound : salon.Sound) (sound' : salon'.Sound)
    {moves : List (Move S B Fault)} (run : salon.IsRun moves) :
    salon'.IsRun (moves.filter (!·.isIgnored)) ∧
      salon'.report (moves.filter (!·.isIgnored)) = salon.report moves ∧
      Alike (salon.afterAll moves) (salon'.afterAll (moves.filter (!·.isIgnored))) := by
  induction moves generalizing salon salon' with
  | nil => exact ⟨trivial, rfl, alike⟩
  | cons move moves ih =>
      obtain ⟨permits, run⟩ := run
      cases ignored : move.isIgnored with
      | true =>
          have silent : salon.told? move = none := by
            cases move with
            | receive id arrival => rfl
            | _ => cases ignored
          rw [List.filter_cons_of_neg (by simp [ignored])]
          obtain ⟨run', reports, alike'⟩ :=
            ih (alike.ignore sound permits ignored) (sound.after move) sound' run
          refine ⟨run', ?_, alike'⟩
          rw [reports, report, silent]
          rfl
      | false =>
          rw [List.filter_cons_of_pos (by simp [ignored])]
          obtain ⟨run', reports, alike'⟩ := ih (alike.after sound sound' permits ignored)
            (sound.after move) (sound'.after move) run
          refine ⟨⟨alike.permits permits, run'⟩, ?_, alike'⟩
          rw [report, report, reports, alike.told?]

end Alike

end

end

end Salon

end Coedit
