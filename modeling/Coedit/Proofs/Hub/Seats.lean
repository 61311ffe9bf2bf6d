import Coedit.Proofs.Hub.Foyer

/-!
# Who can be reached

A session that has sat down at a document can be reached there until it leaves, whoever
else comes and goes meanwhile: a room that somebody has looked up stays the room of its
document, and nobody is seen off but on his own account.
-/

namespace Coedit

namespace Hub

/-- Whether handling sees a session off nowhere. -/
def Retains (document : DocumentId) (session : SessionId) : Handling → Prop
  | .done _ => True
  | .ask call next =>
      call ≠ .depart document session ∧ ∀ answer, Retains document session (next answer)

variable {document other : DocumentId} {session sender : SessionId} {frame : Frame}
  {work rest : Handling} {given : List ((call : Call) × call.Answer)}

theorem retains_rest (retains : Retains document session work) (leads : work.Leads given rest) :
    Retains document session rest := by
  induction leads with
  | start => exact retains
  | answered leads answer ih => exact ih.2 answer

theorem retains_inSection {task : Task} {next : Option Bytes → Handling}
    (retains : ∀ handed, Retains document session (next handed)) :
    Retains document session (inSection other task next) := by
  refine ⟨by simp, fun answer => ?_⟩
  cases answer with
  | ok handed => exact retains handed
  | error failure => trivial

/-- Nobody is seen off for a frame. -/
theorem retains_handle : Retains document session (handle other sender frame) := by
  obtain ⟨kind, payload⟩ := frame
  cases kind with
  | sync step =>
      cases step with
      | request => exact retains_inSection fun _ => trivial
      | answer | update =>
          refine retains_inSection fun handed => ?_
          cases handed with
          | some update => exact ⟨by simp, fun _ => trivial⟩
          | none => trivial
  | awareness => exact ⟨by simp, fun _ => ⟨by simp, fun _ => trivial⟩⟩
  | auth => trivial
  | query => exact ⟨by simp, fun _ => trivial⟩

theorem retains_handleBytes {bytes : Bytes} :
    Retains document session (handleBytes other sender bytes) := by
  unfold handleBytes
  split
  · exact retains_handle
  · trivial

/-- What a session that has left has still to do. -/
def departed (document : DocumentId) (left : Nat) : Handling :=
  if left > 0 then .done (.ok [])
  else
    .ask (.isLoaded document) fun loaded =>
      if loaded then inSection document .evict fun _ => .done (.ok []) else .done (.ok [])

theorem dismiss_eq (document : DocumentId) (session : SessionId) :
    dismiss document session = .ask (.depart document session) (departed document) := rfl

theorem retains_departed (left : Nat) : Retains document session (departed other left) := by
  unfold departed
  split
  · trivial
  · refine ⟨by simp, fun loaded => ?_⟩
    dsimp only
    split
    · exact retains_inSection fun _ => trivial
    · trivial

/-- A session that leaves sees off nobody but itself. -/
theorem retains_dismiss (apart : ¬ (other = document ∧ sender = session)) :
    Retains document session (dismiss other sender) := by
  refine ⟨?_, retains_departed⟩
  rintro ⟨⟩
  exact apart ⟨rfl, rfl⟩

end Hub

namespace Hubs

variable {S B Fault Ask : Type} {Answer : Ask → Type} {hubs : Hubs S B Ask Answer} {id : JobId}
  {path : List (Hubs S B Ask Answer × Move B Fault)}

/-- A session that is seen off has left. -/
theorem Traced.leave_of_departs (traced : Traced path hubs) (bound : id < hubs.nextJob)
    {job : Job Ask Answer} (found : hubs.jobs.get? id = some job) {document : DocumentId}
    {session : SessionId} {next : Nat → Hub.Handling}
    (rest : job.rest = .ask (.depart document session) next) :
    ∃ begun, (begun, .leave job.hub document session) ∈ path := by
  obtain ⟨begun, move, hub, work, member, begins, rfl⟩ := traced.stems bound
  obtain ⟨job', found', rfl, stage⟩ := traced.comes member begins
  rw [found] at found'
  cases found'
  obtain ⟨given, leads⟩ := stage.leads
  have unretained : ¬ Hub.Retains document session work := by
    intro retains
    have retains := Hub.retains_rest retains leads
    rw [rest] at retains
    exact retains.1 rfl
  cases move with
  | frame hub document' sender bytes =>
      cases begins
      exact absurd Hub.retains_handleBytes unretained
  | leave hub document' session' =>
      cases begins
      by_cases same : document' = document ∧ session' = session
      · obtain ⟨rfl, rfl⟩ := same
        exact ⟨begun, member⟩
      · exact absurd (Hub.retains_dismiss same) unretained
  | _ => cases begins

end Hubs

namespace Foyer

variable {S B Fault Ask : Type} {Answer : Ask → Type}

/-! ## Rooms that were looked up -/

/-- Whether a visitor has been shown the room of his document. -/
def Placed (hubs : Hubs S B Ask Answer) (visitor : Visitor) (room : RoomId) : Prop :=
  ∃ roster, hubs.roster? visitor.hub = some roster ∧
    roster.room? visitor.document = some room ∧
    ∀ session, visitor.name = .session session → (roster.outboxes.get? session).isSome

/-- Rooms are apart, and the rooms that were looked up are still those of their
documents. -/
structure Sound (foyer : Foyer S B Ask Answer) : Prop where
  rosters {hub : HubId} {roster : Roster} (found : foyer.hubs.roster? hub = some roster) :
    roster.Sound
  visits {visitor : Visitor} {room : RoomId} (visiting : foyer.visits.get? visitor = some room) :
    Placed foyer.hubs visitor room

/-- Whether a session can be reached at a document. -/
def Seated (foyer : Foyer S B Ask Answer) (hub : HubId) (document : DocumentId)
    (session : SessionId) : Prop :=
  ∃ roster, foyer.hubs.roster? hub = some roster ∧ roster.Seated document session

section

variable {foyer : Foyer S B Ask Answer} {move : Move B Fault} {hub : HubId}
  {document : DocumentId} {session : SessionId} {visitor : Visitor} {room : RoomId}

/-- Two who have to do with a room and the register are three. -/
theorem three_visitors {other : Visitor} (visiting : foyer.visits.get? visitor = some room)
    (visiting' : foyer.visits.get? other = some room) (same : other.hub = visitor.hub)
    (apart : visitor ≠ other) : 2 < foyer.visitors visitor.hub room := by
  have here : (visitor, room) ∈ foyer.visits.entries.filter
      fun entry => entry.1.hub = visitor.hub ∧ entry.2 = room :=
    List.mem_filter.mpr ⟨Table.get?_eq_some_iff.mp visiting, by simp⟩
  have beside : (other, room) ∈ foyer.visits.entries.filter
      fun entry => entry.1.hub = visitor.hub ∧ entry.2 = room :=
    List.mem_filter.mpr ⟨Table.get?_eq_some_iff.mp visiting', by simp [same]⟩
  unfold visitors
  generalize foyer.visits.entries.filter
    (fun entry => entry.1.hub = visitor.hub ∧ entry.2 = room) = held at here beside
  match held, here, beside with
  | [entry], here, beside =>
      have equal := (List.mem_singleton.mp here).trans (List.mem_singleton.mp beside).symm
      exact absurd (congrArg Prod.fst equal) apart
  | first :: second :: rest, _, _ =>
      simp only [List.length_cons]
      omega

/-- Who has been shown a room and is no longer with it when others go on. -/
def Finishes (foyer : Foyer S B Ask Answer) (move : Move B Fault) (visitor : Visitor) : Prop :=
  ∃ id moment, move = .hubs (.step id moment) ∧ visitor.name = .job id ∧
    ∃ session next, foyer.hubs.jobs.get? id =
      some ⟨visitor.hub, .ask (.depart visitor.document session) next, none⟩

/-- A room that was looked up stays the room of its document. -/
theorem Sound.remains {after : Hubs S B Ask Answer} (sound : foyer.Sound)
    (turns : foyer.Turns move after visitor.hub)
    (visiting : foyer.visits.get? visitor = some room) (goesOn : ¬ foyer.Finishes move visitor) :
    Placed after visitor room := by
  obtain ⟨roster, found, here, reached⟩ := sound.visits visiting
  rcases turns with same | ⟨roster', change, found', after, causes⟩
  · exact ⟨roster, same.trans found, here, reached⟩
  · rw [found] at found'
    cases found'
    refine ⟨_, after, Roster.room?_changed here ?_, fun session name =>
      Roster.outbox_changed change (reached session name)⟩
    rintro session visitors rfl
    obtain ⟨id, moment, next, rfl, job, mine, rfl⟩ := causes
    refine three_visitors visiting mine rfl ?_
    intro equal
    exact goesOn ⟨id, moment, rfl, by rw [equal], session, next, job⟩

theorem visits_attend {id : JobId} {home : HubId}
    {act : Roster → RoomId → Nat → Nat × Roster} {next : Nat → Hub.Handling}
    (visiting : (foyer.attend id home document act next).visits.get? visitor = some room) :
    foyer.visits.get? visitor = some room ∧
        (visitor = ⟨home, document, .job id⟩ → foyer.hubs.roster? home = none) ∨
      Placed (foyer.attend id home document act next).hubs visitor room := by
  unfold attend at visiting ⊢
  split at visiting
  · next absent => exact .inl ⟨visiting, fun _ => by rw [Hubs.roster?, absent, Option.map_none]⟩
  · next held found =>
      split at visiting
      · next mine =>
          obtain ⟨apart, visiting⟩ := Table.get?_of_erase visiting
          exact .inl ⟨visiting, fun equal => absurd equal.symm apart⟩
      · next absent =>
          split at visiting
          · next shown here =>
              rw [Table.get?_insert] at visiting
              split at visiting
              · next mine =>
                  cases visiting
                  cases mine
                  right
                  exact ⟨_, roster?_of_found found, here, by simp⟩
              · next apart => exact .inl ⟨visiting, fun equal => absurd equal.symm apart⟩
          · refine .inl ⟨visiting, ?_⟩
            rintro rfl
            rw [absent] at visiting
            cases visiting

theorem visits_arrive {id : HubId}
    (visiting : (foyer.arrive id document).visits.get? visitor = some room) :
    foyer.visits.get? visitor = some room ∨
      Placed (foyer.arrive id document).hubs visitor room := by
  unfold arrive at visiting ⊢
  split at visiting
  · exact .inl visiting
  · next held found =>
      rw [Table.get?_insert] at visiting
      split at visiting
      · next mine =>
          cases visiting
          cases mine
          right
          refine ⟨_, (roster?_setHub id).trans (if_pos rfl), ?_, ?_⟩
          · exact Roster.room?_enter.trans (if_pos rfl)
          · rintro session ⟨⟩
            rw [Roster.outboxes_enter.2, Roster.outboxes_enter.1]
            simp
      · exact .inl visiting

theorem visits_visit {guest : Nat} {id : HubId}
    (visiting : (foyer.visit guest id document).visits.get? visitor = some room) :
    foyer.visits.get? visitor = some room ∨
      Placed (foyer.visit guest id document).hubs visitor room := by
  unfold visit at visiting ⊢
  split at visiting
  · exact .inl visiting
  · next shown here =>
      rw [Table.get?_insert] at visiting
      split at visiting
      · next mine =>
          cases visiting
          cases mine
          right
          obtain ⟨roster, found, here⟩ := Option.bind_eq_some_iff.mp here
          exact ⟨roster, found, here, by simp⟩
      · exact .inl visiting

theorem visits_step [Lease.Store S] [Medium B Fault Ask Answer] {id : JobId}
    {moment : Lock.Moment} (visiting : (foyer.step id moment).visits.get? visitor = some room) :
    foyer.visits.get? visitor = some room ∧
        (foyer.Finishes (.hubs (.step id moment) : Move B Fault) visitor →
          foyer.hubs.roster? visitor.hub = none) ∨
      Placed (foyer.step id moment).hubs visitor room := by
  unfold step at visiting ⊢
  split at visiting
  · next home document' sender frame next found =>
      rcases visits_attend visiting with ⟨before, -⟩ | placed
      · refine .inl ⟨before, ?_⟩
        rintro ⟨id', moment', equal, -, session, next', found'⟩
        cases equal
        cases found.symm.trans found'
      · exact .inr placed
  · next home document' session next found =>
      rcases visits_attend visiting with ⟨before, gone⟩ | placed
      · refine .inl ⟨before, ?_⟩
        rintro ⟨id', moment', equal, name, session', next', found'⟩
        cases equal
        cases found.symm.trans found'
        refine gone ?_
        rw [← name]
      · exact .inr placed
  · next passes stays =>
      refine .inl ⟨visiting, ?_⟩
      rintro ⟨id', moment', equal, -, session, next, found⟩
      cases equal
      exact (stays _ _ _ _ found).elim

/-- Whoever has to do with a room after a move was shown it before, or is shown it now. -/
theorem visits_after [Lease.Store S] [Medium B Fault Ask Answer]
    (visiting : (foyer.after move).visits.get? visitor = some room) :
    foyer.visits.get? visitor = some room ∧
        (foyer.Finishes move visitor → foyer.hubs.roster? visitor.hub = none) ∨
      Placed (foyer.after move).hubs visitor room := by
  have idle : (∀ id moment, move ≠ .hubs (.step id moment)) →
      foyer.Finishes move visitor → foyer.hubs.roster? visitor.hub = none := by
    rintro still ⟨id, moment, equal, -⟩
    exact absurd equal (still id moment)
  cases move with
  | sit id document session =>
      simp only [after, sit] at visiting
      split at visiting
      · exact .inl ⟨visiting, idle (by simp)⟩
      · exact .inl ⟨(Table.get?_of_erase visiting).2, idle (by simp)⟩
  | visit guest id document =>
      rcases visits_visit visiting with before | placed
      · exact .inl ⟨before, idle (by simp)⟩
      · exact .inr placed
  | quit guest id document =>
      exact .inl ⟨(Table.get?_of_erase visiting).2, idle (by simp)⟩
  | hubs move =>
      cases move with
      | join id document =>
          rcases visits_arrive visiting with before | placed
          · exact .inl ⟨before, idle (by simp)⟩
          · exact .inr placed
      | step id moment => exact visits_step visiting
      | _ => exact .inl ⟨visiting, idle (by simp)⟩

/-- Every move keeps rooms apart and visitors in the rooms they were shown. -/
theorem Sound.after [Lease.Store S] [Medium B Fault Ask Answer] (sound : foyer.Sound)
    (move : Move B Fault) : (foyer.after move).Sound := by
  constructor
  · intro hub roster found
    rcases turns_after foyer move hub with same | ⟨before, change, beforeFound, after, -⟩
    · exact sound.rosters (same.symm.trans found)
    · rw [after] at found
      cases found
      exact (sound.rosters beforeFound).changed change
  · intro visitor room visiting
    rcases visits_after visiting with ⟨before, gone⟩ | placed
    · refine sound.remains (turns_after foyer move visitor.hub) before ?_
      intro finishes
      obtain ⟨roster, found, -⟩ := sound.visits before
      rw [gone finishes] at found
      cases found
    · exact placed

/-- Who has sat down can be reached. -/
theorem Sound.seated_of_sit [Lease.Store S] [Medium B Fault Ask Answer] (sound : foyer.Sound)
    (visiting : foyer.visits.get? ⟨hub, document, .session session⟩ = some room) :
    (foyer.after (.sit hub document session : Move B Fault)).Seated hub document session := by
  obtain ⟨roster, found, here, reached⟩ := sound.visits visiting
  obtain ⟨held, hubFound, rfl⟩ := Option.map_eq_some_iff.mp found
  refine ⟨held.roster.sit room session, ?_, room, here, ?_, reached session rfl⟩
  · simp only [Foyer.after, sit, visiting, Hubs.modifyRoster, hubFound]
    exact (roster?_setHub hub).trans (if_pos rfl)
  · exact Roster.sits_sit.mpr (.inl ⟨rfl, rfl⟩)

/-- Who can be reached at a document can be reached there until it is seen off. -/
theorem Seated.after [Lease.Store S] [Medium B Fault Ask Answer]
    (seated : foyer.Seated hub document session) (sound : foyer.Sound)
    (stays : ∀ id next,
      foyer.hubs.jobs.get? id ≠ some ⟨hub, .ask (.depart document session) next, none⟩) :
    (foyer.after move).Seated hub document session := by
  obtain ⟨roster, found, seated⟩ := seated
  rcases turns_after foyer move hub with same | ⟨roster', change, found', after, causes⟩
  · exact ⟨roster, same.trans found, seated⟩
  · rw [found] at found'
    cases found'
    refine ⟨_, after, seated.changed (sound.rosters found) ?_ ?_⟩
    · rintro document' room session' visitors rfl
      obtain ⟨id, moment, next, -, -, visiting, -⟩ := causes
      obtain ⟨roster', found', here, -⟩ := sound.visits visiting
      rw [found] at found'
      cases found'
      exact here
    · rintro room visitors rfl
      obtain ⟨id, moment, next, -, job, -⟩ := causes
      exact stays id next job

end

/-! ## Runs -/

section

variable [Lease.Store S] [Lease.Lawful S] [Medium B Fault Ask Answer]
  {archive : Archive Ask Answer} {engine : Engine}

/-- What the surroundings promise about a move. -/
def Permits (keeping : archive.Keeping B Fault) (foyer : Foyer S B Ask Answer)
    (move : Move B Fault) : Prop :=
  foyer.hubs.Permits keeping move.atHubs

/-- The runs from some foyer, each with the moves it took and the foyers it took them at,
latest first. -/
inductive Run (keeping : archive.Keeping B Fault) (start : Foyer S B Ask Answer) :
    List (Foyer S B Ask Answer × Move B Fault) → Foyer S B Ask Answer → Prop where
  | start : Run keeping start [] start
  | move {path : List (Foyer S B Ask Answer × Move B Fault)} {foyer : Foyer S B Ask Answer}
      {move : Move B Fault} (run : Run keeping start path foyer)
      (permitted : foyer.Permits keeping move) :
      Run keeping start ((foyer, move) :: path) (foyer.after move)

/-- The foyer after some moves. -/
def afterAll (foyer : Foyer S B Ask Answer) (moves : List (Move B Fault)) :
    Foyer S B Ask Answer :=
  moves.foldl Foyer.after foyer

/-- The path that some moves take. -/
def trail (foyer : Foyer S B Ask Answer) :
    List (Move B Fault) → List (Foyer S B Ask Answer × Move B Fault) →
      List (Foyer S B Ask Answer × Move B Fault)
  | [], path => path
  | move :: moves, path => (foyer.after move).trail moves ((foyer, move) :: path)

/-- Whether each of some moves is permitted when its turn comes. -/
def PermitsAll (keeping : archive.Keeping B Fault) (foyer : Foyer S B Ask Answer) :
    List (Move B Fault) → Prop
  | [] => True
  | move :: moves => foyer.Permits keeping move ∧ (foyer.after move).PermitsAll keeping moves

/-- A path of foyers as a path of their hubs. -/
def atHubs (path : List (Foyer S B Ask Answer × Move B Fault)) :
    List (Hubs S B Ask Answer × Hubs.Move B Fault) :=
  path.map fun at' => (at'.1.hubs, at'.2.atHubs)

omit [Lease.Store S] [Lease.Lawful S] [Medium B Fault Ask Answer] in
theorem atHubs_suffix {early path : List (Foyer S B Ask Answer × Move B Fault)}
    (suffix : early <:+ path) : atHubs early <:+ atHubs path := by
  obtain ⟨late, rfl⟩ := suffix
  exact ⟨atHubs late, List.map_append.symm⟩

/-- Foyers at which nothing has begun and nobody is about. -/
structure Starts (keeping : archive.Keeping B Fault) (engine : Engine)
    (first : DocumentId → keeping.Place) (foyer : Foyer S B Ask Answer) : Prop where
  hubs : foyer.hubs.Starts keeping engine first
  rosters {hub : HubId} {roster : Roster} (found : foyer.hubs.roster? hub = some roster) :
    roster.Sound
  visits : foyer.visits = .empty

/-- Whether a session has joined a document on a path. -/
def HasJoined (path : List (Foyer S B Ask Answer × Move B Fault)) (hub : HubId)
    (document : DocumentId) (session : SessionId) : Prop :=
  ∃ before room, (before, .sit hub document session) ∈ path ∧
    before.visits.get? ⟨hub, document, .session session⟩ = some room

/-- Whether a session has left a document on a path. -/
def HasLeft (path : List (Foyer S B Ask Answer × Move B Fault)) (hub : HubId)
    (document : DocumentId) (session : SessionId) : Prop :=
  ∃ before, (before, .hubs (.leave hub document session)) ∈ path

variable {keeping : archive.Keeping B Fault} {first : DocumentId → keeping.Place}
  {start foyer : Foyer S B Ask Answer} {path : List (Foyer S B Ask Answer × Move B Fault)}
  {hub : HubId} {document : DocumentId} {session : SessionId}

theorem Run.of_moves {moves : List (Move B Fault)} (run : Run keeping start path foyer)
    (permitted : foyer.PermitsAll keeping moves) :
    Run keeping start (foyer.trail moves path) (foyer.afterAll moves) := by
  induction moves generalizing foyer path with
  | nil => exact run
  | cons move moves ih => exact ih (run.move permitted.1) permitted.2

omit [Lease.Lawful S] in
/-- Where a move stands on the path that moves take. -/
theorem trail_eq (foyer : Foyer S B Ask Answer) (moves later : List (Move B Fault))
    (move : Move B Fault) (path : List (Foyer S B Ask Answer × Move B Fault)) :
    ∃ late, foyer.trail (moves ++ move :: later) path =
      late ++ (foyer.afterAll moves, move) :: foyer.trail moves path := by
  have grown : ∀ (foyer : Foyer S B Ask Answer) (moves : List (Move B Fault))
      (path : List (Foyer S B Ask Answer × Move B Fault)),
      ∃ late, foyer.trail moves path = late ++ path := by
    intro foyer moves
    induction moves generalizing foyer with
    | nil => exact fun path => ⟨[], rfl⟩
    | cons move moves ih =>
        intro path
        obtain ⟨late, equal⟩ := ih (foyer.after move) ((foyer, move) :: path)
        exact ⟨late ++ [(foyer, move)], by rw [trail, equal]; simp⟩
  induction moves generalizing foyer path with
  | nil => exact grown (foyer.after move) later ((foyer, move) :: path)
  | cons first moves ih => exact ih (foyer.after first) ((foyer, first) :: path)

omit [Lease.Lawful S] in
/-- Nothing but the moves is on the path they take. -/
theorem mem_of_mem_trail {moves : List (Move B Fault)} {at' : Foyer S B Ask Answer × Move B Fault}
    (member : at' ∈ foyer.trail moves []) : at'.2 ∈ moves := by
  have here : ∀ {foyer : Foyer S B Ask Answer} {path : List (Foyer S B Ask Answer × Move B Fault)},
      at' ∈ foyer.trail moves path → at' ∈ path ∨ at'.2 ∈ moves := by
    clear member
    induction moves with
    | nil => exact fun member => .inl member
    | cons move moves ih =>
        intro foyer path member
        rcases ih member with before | later
        · rcases List.mem_cons.mp before with rfl | before
          · exact .inr (List.mem_cons_self ..)
          · exact .inl before
        · exact .inr (List.mem_cons_of_mem _ later)
  rcases here member with none | member
  · cases none
  · exact member

instance [∀ question fault, Decidable (keeping.Happens question fault)]
    [∀ medium after, Decidable (keeping.Drifts medium after)] (foyer : Foyer S B Ask Answer)
    (move : Move B Fault) : Decidable (foyer.Permits keeping move) :=
  inferInstanceAs (Decidable (foyer.hubs.Permits keeping move.atHubs))

instance decidablePermitsAll [∀ question fault, Decidable (keeping.Happens question fault)]
    [∀ medium after, Decidable (keeping.Drifts medium after)] (foyer : Foyer S B Ask Answer) :
    (moves : List (Move B Fault)) → Decidable (foyer.PermitsAll keeping moves)
  | [] => .isTrue trivial
  | move :: moves =>
      have := decidablePermitsAll (foyer.after move) moves
      inferInstanceAs (Decidable (foyer.Permits keeping move ∧
        (foyer.after move).PermitsAll keeping moves))

/-- What happens at foyers is a course of their hubs. -/
theorem Run.course (run : Run keeping start path foyer) :
    Hubs.Course keeping start.hubs (atHubs path) foyer.hubs := by
  induction run with
  | start => exact .start
  | move run permitted ih => exact ih.move permitted (effect_after _)

/-- A run has come by each of its moves. -/
theorem Run.split {late early : List (Foyer S B Ask Answer × Move B Fault)}
    {before : Foyer S B Ask Answer} {move : Move B Fault} (run : Run keeping start path foyer)
    (equal : path = late ++ (before, move) :: early) :
    Run keeping start early before ∧ before.Permits keeping move := by
  induction late generalizing path foyer with
  | nil =>
      cases run with
      | start => cases equal
      | move run permitted =>
          cases equal
          exact ⟨run, permitted⟩
  | cons last late ih =>
      cases run with
      | start => cases equal
      | move run permitted =>
          cases equal
          exact ih run rfl

theorem Run.sound (run : Run keeping start path foyer)
    (starts : start.Starts keeping engine first) : foyer.Sound := by
  induction run with
  | start =>
      refine ⟨starts.rosters, ?_⟩
      intro visitor room visiting
      rw [starts.visits] at visiting
      cases visiting
  | move run permitted ih => exact ih.after _

/-- Who has joined a document and has not left it can be reached there. -/
theorem Run.seated (run : Run keeping start path foyer)
    (starts : start.Starts keeping engine first) (joined : HasJoined path hub document session)
    (stays : ¬ HasLeft path hub document session) : foyer.Seated hub document session := by
  induction run with
  | start =>
      obtain ⟨before, room, member, -⟩ := joined
      cases member
  | @move path foyer move run permitted ih =>
      obtain ⟨before, room, member, visiting⟩ := joined
      rcases List.mem_cons.mp member with equal | member
      · cases equal
        exact (run.sound starts).seated_of_sit visiting
      · have remains : ¬ HasLeft path hub document session := by
          rintro ⟨begun, leaves⟩
          exact stays ⟨begun, List.mem_cons_of_mem _ leaves⟩
        refine (ih ⟨before, room, member, visiting⟩ remains).after (run.sound starts) ?_
        intro id next found
        have bound := (run.course.orderly starts.hubs).numbered found
        obtain ⟨begun, leaves⟩ :=
          (run.course.traced starts.hubs).leave_of_departs bound found rfl
        obtain ⟨⟨earlier, move'⟩, within, equal⟩ := List.mem_map.mp leaves
        cases move' with
        | hubs move' =>
            cases equal
            exact remains ⟨earlier, within⟩
        | _ => cases equal

end

end Foyer

end Coedit
