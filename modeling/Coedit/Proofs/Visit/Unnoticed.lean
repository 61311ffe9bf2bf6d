import Coedit.Proofs.UpdateLog.Delivery
import Coedit.Proofs.Visit.Attendance
import Coedit.Proofs.Visit.Ignoring

/-!
# Salons without what is ignored

What is ignored can be left out of a run, and nobody notices.  And every visit attends as it
should: it joins once, nothing but the loss of its connection ends it, and then it leaves
once and is gone.
-/

namespace Coedit

namespace Salon

variable {S B Fault Ask : Type} {Answer : Ask → Type} {salon : Salon S B Ask Answer}

/-! ## Salons that nobody has come to -/

/-- Salons at which nobody has been yet. -/
structure Starts (salon : Salon S B Ask Answer) : Prop where
  visits : salon.visits.visits = .empty
  shown : salon.shown = .empty
  rosters {hub : HubId} {roster : Roster} (found : salon.foyer.hubs.roster? hub = some roster) :
    roster = .empty

namespace Starts

theorem visit?_eq_none (starts : salon.Starts) (id : VisitId) : salon.visits.visit? id = none := by
  rw [Visits.visit?, starts.visits]
  rfl

theorem shown_eq_none (starts : salon.Starts) (visitor : Visitor) :
    salon.shown.get? visitor = none := by
  rw [starts.shown]
  rfl

theorem job?_eq_none (starts : salon.Starts) (id : VisitId) : salon.job? id = none := by
  rw [job?, starts.visit?_eq_none]
  rfl

theorem sound (starts : salon.Starts) : salon.Sound where
  numbered found := by cases (starts.visit?_eq_none _).symm.trans found
  bounded busy := by cases (starts.job?_eq_none _).symm.trans busy
  apart busy := by cases (starts.job?_eq_none _).symm.trans busy
  shown looked := by cases (starts.shown_eq_none _).symm.trans looked

theorem seating (starts : salon.Starts) : salon.Seating where
  foyer := by
    constructor
    · intro hub roster found
      rw [starts.rosters found]
      exact Roster.sound_empty
    · intro visitor room looked
      cases (starts.shown_eq_none visitor).symm.trans looked
  hosted found := by cases (starts.visit?_eq_none _).symm.trans found
  awaited looked := by cases (starts.shown_eq_none _).symm.trans looked
  once found := by cases (starts.visit?_eq_none _).symm.trans found
  waiting found := by cases (starts.visit?_eq_none _).symm.trans found
  single looked := by cases (starts.shown_eq_none _).symm.trans looked

theorem attended (starts : salon.Starts) : salon.Attended [] where
  joined found := by cases (starts.visit?_eq_none _).symm.trans found
  known member := by simp at member
  course id visit found := by cases (starts.visit?_eq_none _).symm.trans found
  present found here := by
    rw [starts.rosters found] at here
    cases here

theorem alike (starts : salon.Starts) : Alike salon salon where
  foyer := by
    have none (job job' : JobId) : ¬ SameJob salon salon job job' := by
      rintro ⟨id, busy, -⟩
      cases (starts.job?_eq_none id).symm.trans busy
    refine ⟨⟨rfl, rfl, rfl, rfl, fun same => absurd same (none _ _)⟩, fun visitors => ?_,
      fun _ _ => rfl⟩
    cases visitors with
    | job same => exact absurd same (none _ _)
    | other idle => rfl
  next := rfl
  visits id := by
    rw [starts.visit?_eq_none]
    exact .none

end Starts

section

variable [Lease.Store S] [Medium B Fault Ask Answer]

/-- Salons that nobody can tell from each other: all that is stored, loaded, said and on its
way is the same, and so is who visits what. -/
structure SameSight (salon salon' : Salon S B Ask Answer) : Prop where
  site : salon'.visits.hubs.site = salon.visits.hubs.site
  archive : salon'.visits.hubs.archive = salon.visits.hubs.archive
  medium : salon'.visits.hubs.medium = salon.visits.hubs.medium
  hubs : salon'.visits.hubs.hubs = salon.visits.hubs.hubs
  seats (id : VisitId) :
    (salon'.visits.visit? id).map (fun visit => (visit.hub, visit.document, visit.session)) =
      (salon.visits.visit? id).map fun visit => (visit.hub, visit.document, visit.session)

omit [Lease.Store S] [Medium B Fault Ask Answer] in
theorem Alike.sameSight {salon' : Salon S B Ask Answer} (alike : Alike salon salon') :
    SameSight salon salon' where
  site := alike.foyer.hubs.site
  archive := alike.foyer.hubs.archive
  medium := alike.foyer.hubs.medium
  hubs := alike.foyer.hubs.held
  seats id := by
    cases found : salon.visits.visit? id with
    | none => rw [alike.visit_none found]
    | some visit =>
        obtain ⟨visit', found', visits⟩ := alike.visit found
        rw [found', Option.map_some, Option.map_some, visits.hub, visits.document, visits.session]

/-- How a visit attends that some moves have led to. -/
structure Attends (salon : Salon S B Ask Answer) (moves : List (Move S B Fault)) (id : VisitId)
    (visit : Visit) : Prop where
  joined : (salon.report moves).count (.joined visit.hub visit.session) = 1
  /-- Nothing but the loss of its connection ends it. -/
  ends : isEnding visit.phase = true ↔ .receive id .gone ∈ moves
  /-- After a frame that was rejected it listens again. -/
  listens {job : JobId} {error : HubError Empty} (handles : visit.phase = .handling job)
    (rejected : (salon.afterAll moves).visits.hubs.result? job = some (.error error)) :
    ((salon.afterAll moves).after (.follow id : Move S B Fault)).visits.visit? id =
      some { visit with phase := .listening }
  stays (goesOn : isEnding visit.phase = false) :
    .left visit.hub visit.session ∉ salon.report moves
  /-- Two steps of its job are enough for it to leave, and it leaves once. -/
  leaves {job : JobId} (leaving : visit.phase = .leaving job) (moment later : Lock.Moment) :
    (salon.report (moves ++ [.step id moment, .step id later])).count
      (.left visit.hub visit.session) = 1
  left (isOver : visit.phase = .over) :
    (salon.report moves).count (.left visit.hub visit.session) = 1
  /-- Who has left sits at no document. -/
  gone (left : .left visit.hub visit.session ∈ salon.report moves) {roster : Roster}
    {document : DocumentId} {room : RoomId}
    (hosted : (salon.afterAll moves).foyer.hubs.roster? visit.hub = some roster)
    (here : roster.room? document = some room) : ¬ roster.Sits room visit.session

theorem attends_of_run (starts : salon.Starts) {moves : List (Move S B Fault)}
    (run : salon.IsRun moves) {id : VisitId} {visit : Visit}
    (found : (salon.afterAll moves).visits.visit? id = some visit) :
    salon.Attends moves id visit := by
  obtain ⟨attended, sound, seating⟩ := starts.attended.run starts.sound starts.seating moves
  rw [List.nil_append] at attended
  have course := attended.course id visit found
  constructor
  case joined => exact attended.joined found
  case ends =>
    constructor
    · intro ends
      rcases (isEnding_run starts.sound run).mp ⟨visit, found, ends⟩ with ⟨_, before, -⟩ | hangsUp
      · cases (starts.visit?_eq_none id).symm.trans before
      · exact hangsUp
    · intro hangsUp
      obtain ⟨_, found', ends⟩ := (isEnding_run starts.sound run).mpr (.inr hangsUp)
      cases found.symm.trans found'
      exact ends
  case listens =>
    intro job error handles rejected
    have follows : (salon.afterAll moves).followed visit = .listening := by
      simp only [followed, handles, rejected]
    rw [visit_after sound found, turned, if_pos rfl, follows]
  case stays =>
    intro goesOn member
    have once := List.count_pos_iff.mpr member
    generalize (salon.report moves).count (.left visit.hub visit.session) = times at course once
    generalize visit.phase = phase at course goesOn
    cases course with
    | leaving waits => cases goesOn
    | left idles => cases goesOn
    | «over» => cases goesOn
    | _ => exact absurd once (Nat.lt_irrefl 0)
  case leaves =>
    intro job leaving moment later
    rw [report_append]
    exact attended.left_of_leaving sound seating found leaving moment later
  case left =>
    intro isOver
    rw [isOver] at course
    generalize (salon.report moves).count (.left visit.hub visit.session) = times at course
    cases course
    rfl
  case gone =>
    intro left roster document room hosted here sits
    obtain ⟨other, beside, found', hub, -, session, stays⟩ := attended.present hosted here sits
    exact stays left

/-- Leaving out text, bytes that are no frame, and auth frames leaves all as it is, and every
visit attends as it should. -/
theorem unnoticed (starts : salon.Starts) {moves : List (Move S B Fault)}
    (run : salon.IsRun moves) :
    (salon.IsRun (moves.filter (!·.isIgnored)) ∧
      salon.report (moves.filter (!·.isIgnored)) = salon.report moves ∧
      SameSight (salon.afterAll moves) (salon.afterAll (moves.filter (!·.isIgnored)))) ∧
    ∀ id visit, (salon.afterAll moves).visits.visit? id = some visit →
      salon.Attends moves id visit := by
  obtain ⟨run', reports, alike⟩ := starts.alike.run starts.sound starts.sound run
  exact ⟨⟨run', reports, alike.sameSight⟩, fun id visit found => attends_of_run starts run found⟩

end

/-! ## A visit that chatters -/

open Archive (Shelf)

/-- A salon with two hubs that share a memory of leases and a shelf. -/
def shelved : Salon Lease.Memory Shelf Shelf.Call Shelf.Call.Answer :=
  ⟨.create Hubs.shelved, .empty⟩

theorem shelved_starts : shelved.Starts := by
  refine ⟨rfl, rfl, ?_⟩
  intro id roster found
  obtain ⟨hub, held, rfl⟩ := Option.map_eq_some_iff.mp found
  exact (Foyer.shelved_uses held).2.2

/-- The job of a visit goes on. -/
def goesOn (id : VisitId) : Move Lease.Memory Shelf ArchiveError :=
  .step id (.at ⟨0⟩ .zero "spare")

/-- Two sessions join a document.  The first sends text, an auth frame, nothing at all, and
its presence, and leaves. -/
def chatter : List (Move Lease.Memory Shelf ArchiveError) :=
  [.come 0 ⟨"w", "d"⟩, .sit 0 ⟨"w", "d"⟩ 1, .come 0 ⟨"w", "d"⟩, .sit 0 ⟨"w", "d"⟩ 2,
    .receive 0 .other, .receive 0 (.binary [2, 9]), .follow 0, .follow 0,
    .receive 0 (.binary []), .follow 0,
    .receive 0 (.binary [1, 7]), goesOn 0, goesOn 0, goesOn 0, .follow 0, .follow 0, .fetch 1 8,
    .receive 0 .gone, goesOn 0, goesOn 0, .follow 0]

/-- All that is told of it is that two sessions join, the second is told the presence of the
first, and the first leaves. -/
theorem unnoticed_chatter :
    shelved.report (chatter.filter (!·.isIgnored)) =
        [.joined 0 1, .joined 0 2, .fetched 1 [⟨.awareness, [7]⟩], .left 0 1] ∧
      (shelved.report chatter).count (.left 0 1) = 1 := by
  have run : shelved.IsRun chatter := by decide +kernel
  have told : shelved.report chatter =
      [.joined 0 1, .joined 0 2, .fetched 1 [⟨.awareness, [7]⟩], .left 0 1] := by decide +kernel
  have found : (shelved.afterAll chatter).visits.visit? 0 = some ⟨0, ⟨"w", "d"⟩, 1, .over⟩ := by
    decide +kernel
  obtain ⟨⟨-, same, -⟩, attends⟩ := unnoticed shelved_starts run
  exact ⟨same.trans told, (attends 0 _ found).left rfl⟩

end Salon

end Coedit
