import Coedit.Proofs.Hub.Seats

/-!
# What gets into outboxes

Nothing is put into an outbox but by a job that passes a frame on, to those who sit at the
document; whoever sits there has joined it, and each session joins one document only.
-/

namespace Coedit

namespace Roster

variable {roster : Roster} {document : DocumentId} {room : RoomId} {session : SessionId}
  {frame : Frame} {change : Change}

/-- The frames on their way to a session. -/
def queue (roster : Roster) (session : SessionId) : List Frame := (roster.outbox session).queue

theorem queue_of_outboxes {after : Roster}
    (same : after.outboxes.get? session = roster.outboxes.get? session) :
    after.queue session = roster.queue session := by
  rw [queue, outbox, same]
  rfl

theorem queue_enter :
    (roster.enter document).2.queue session = roster.queue session ∨
      (roster.enter document).2.queue session = [] := by
  by_cases fresh : roster.nextSession = session
  · right
    rw [queue, outbox, outboxes_enter.2, Table.get?_insert, if_pos fresh]
    rfl
  · left
    refine queue_of_outboxes ?_
    rw [outboxes_enter.2, Table.get?_insert, if_neg fresh]

theorem queue_modifyOutbox {other : SessionId} {change : Outbox → Outbox}
    (shrinks : ∀ outbox, (change outbox).queue.Sublist outbox.queue) :
    ((roster.modifyOutbox other change).queue session).Sublist (roster.queue session) := by
  by_cases same : other = session
  · rw [queue, outbox, modifyOutbox, Table.get?_modify, if_pos same]
    cases found : roster.outboxes.get? session with
    | none => exact List.nil_sublist _
    | some outbox =>
        rw [queue, Roster.outbox, found]
        exact shrinks outbox
  · have kept : (roster.modifyOutbox other change).queue session = roster.queue session := by
      refine queue_of_outboxes ?_
      rw [modifyOutbox, Table.get?_modify, if_neg same]
    exact kept ▸ List.Sublist.refl _

/-- Whoever is meant when a frame is passed on gets it once at most, and nobody else gets
anything. -/
theorem queue_pass {sender : SessionId} :
    (roster.pass room sender frame).2.queue session = roster.queue session ∨
      roster.Sits room session ∧ session ≠ sender ∧
        (roster.pass room sender frame).2.queue session = roster.queue session ++ [frame] := by
  by_cases meant : roster.Sits room session ∧ session ≠ sender
  · have after : (roster.pass room sender frame).2.outboxes.get? session =
        (roster.outboxes.get? session).map fun outbox => outbox.offer frame := by
      rw [outbox_pass, if_pos meant]
    cases found : roster.outboxes.get? session with
    | none =>
        left
        refine queue_of_outboxes ?_
        rw [after, found, Option.map_none]
    | some outbox =>
        rw [queue, queue, Roster.outbox, Roster.outbox, after, found, Option.map_some,
          Option.getD_some, Option.getD_some, Outbox.offer]
        split
        · exact .inr ⟨meant.1, meant.2, rfl⟩
        · exact .inl rfl
  · left
    refine queue_of_outboxes ?_
    rw [outbox_pass, if_neg meant]

/-- No change but passing a frame on puts anything into an outbox. -/
theorem queue_changed (shrinks : ∀ other does, change = .outbox other does →
      ∀ outbox, (does outbox).queue.Sublist outbox.queue) :
    ((roster.changed change).queue session).Sublist (roster.queue session) ∨
      ∃ room sender frame, change = .passed room sender frame ∧ roster.Sits room session ∧
        session ≠ sender ∧
        (roster.changed change).queue session = roster.queue session ++ [frame] := by
  have kept : (roster.changed change).outboxes = roster.outboxes →
      ((roster.changed change).queue session).Sublist (roster.queue session) := by
    intro same
    exact queue_of_outboxes (congrArg (Table.get? · session) same) ▸ List.Sublist.refl _
  cases change with
  | entered document =>
      left
      rw [changed]
      rcases @queue_enter roster document session with same | emptied
      · exact same ▸ List.Sublist.refl _
      · exact emptied ▸ List.nil_sublist _
  | sat room other => exact .inl (kept rfl)
  | parted document room other visitors => exact .inl (kept outboxes_part)
  | announced document other payload => exact .inl (kept register_setAwareness.2.2)
  | outbox other does => exact .inl (queue_modifyOutbox (shrinks other does rfl))
  | passed room sender frame =>
      rw [changed]
      rcases @queue_pass roster room session frame sender with same | ⟨sits, apart, grown⟩
      · exact .inl (same ▸ List.Sublist.refl _)
      · exact .inr ⟨room, sender, frame, rfl, sits, apart, grown⟩

/-- Nobody sits in a room that has just been opened. -/
theorem not_sits_enter (absent : roster.room? document = none) :
    ¬ (roster.enter document).2.Sits roster.nextRoom session := by
  rw [enter_of_none absent]
  unfold Sits roomAt
  dsimp only
  rw [Table.get?_insert_self]
  simp [Room.empty, Table.contains]

/-- Who sits in the room of a document after a change sat there before, or has just sat
down. -/
theorem Sound.sits_of_changed (sound : roster.Sound)
    (here : (roster.changed change).room? document = some room)
    (sits : (roster.changed change).Sits room session) :
    roster.room? document = some room ∧
      (roster.Sits room session ∨ change = .sat room session) := by
  rcases room?_of_changed here with before | ⟨rfl, rfl, opened⟩
  · refine ⟨before, ?_⟩
    cases change with
    | entered entered => exact .inl ((sits_enter (sound.bounded before)).mp sits)
    | sat room' other =>
        rcases sits_sit.mp sits with ⟨rfl, rfl⟩ | sat
        · exact .inr rfl
        · exact .inl sat
    | parted target room' other visitors => exact .inl (sits_part.mp sits).2
    | passed room' sender frame =>
        left
        unfold Sits roomAt Roster.changed at sits
        rw [pass_beside.1] at sits
        exact sits
    | announced target other payload => exact .inl (sits_setAwareness.mp sits)
    | outbox other does => exact .inl sits
  · cases absent : roster.room? document with
    | none => exact absurd sits (not_sits_enter absent)
    | some held =>
        rw [Roster.changed, enter_of_room absent] at opened
        exact absurd opened (Nat.ne_of_lt (Nat.lt_succ_self _))

/-- Sessions are numbered as they come. -/
theorem nextSession_changed (change : Change) :
    roster.nextSession ≤ (roster.changed change).nextSession ∧
      ∀ document, change = .entered document →
        (roster.changed change).nextSession = roster.nextSession + 1 := by
  cases change with
  | entered document =>
      have next : (roster.enter document).2.nextSession = roster.nextSession + 1 := by
        cases found : roster.room? document with
        | some room => rw [enter_of_room found]
        | none => rw [enter_of_none found]
      exact ⟨next ▸ Nat.le_succ _, fun _ _ => next⟩
  | sat room session => exact ⟨Nat.le_refl _, by simp⟩
  | parted document room session visitors =>
      refine ⟨Nat.le_of_eq ?_, by simp⟩
      simp only [changed, part, sweep]
      split
      · split
        · rfl
        · rfl
      · rfl
  | passed room sender frame => exact ⟨Nat.le_of_eq pass_beside.2.2.2.symm, by simp⟩
  | announced document session payload =>
      refine ⟨Nat.le_of_eq ?_, by simp⟩
      simp only [changed, setAwareness]
      split
      · rfl
      · split
        · rfl
        · rfl
  | outbox session change => exact ⟨Nat.le_refl _, by simp⟩

end Roster

namespace Foyer

variable {S B Fault Ask : Type} {Answer : Ask → Type} {foyer : Foyer S B Ask Answer}
  {move : Move B Fault} {id : JobId} {hub : HubId} {document : DocumentId}
  {session sender : SessionId} {frame : Frame}

/-- The frames on their way to a session. -/
def queue (foyer : Foyer S B Ask Answer) (hub : HubId) (session : SessionId) : List Frame :=
  ((foyer.hubs.roster? hub).map fun roster => roster.queue session).getD []

/-- Whether a job passes a frame on to a session, which sits in the room that the job has
looked up. -/
structure PassesTo (foyer : Foyer S B Ask Answer) (id : JobId) (hub : HubId)
    (document : DocumentId) (sender session : SessionId) (frame : Frame) : Prop where
  job : ∃ next, foyer.hubs.jobs.get? id =
    some ⟨hub, .ask (.broadcast document sender frame) next, none⟩
  seat : ∃ roster room, foyer.hubs.roster? hub = some roster ∧
    foyer.visits.get? ⟨hub, document, .job id⟩ = some room ∧ roster.Sits room session
  apart : session ≠ sender

/-! ## Puts -/

section

variable [Lease.Store S] [Medium B Fault Ask Answer]

/-- Whether a move puts a frame into the outbox of a session. -/
def Puts (foyer : Foyer S B Ask Answer) (move : Move B Fault) (hub : HubId)
    (session : SessionId) (frame : Frame) : Prop :=
  (foyer.queue hub session).count frame < ((foyer.after move).queue hub session).count frame

/-- Only the step of a job that passes a frame on puts it into an outbox, once. -/
theorem Puts.passes (puts : foyer.Puts move hub session frame) :
    ∃ id moment document sender, move = .hubs (.step id moment) ∧
      foyer.PassesTo id hub document sender session frame ∧
      (foyer.after move).queue hub session = foyer.queue hub session ++ [frame] := by
  unfold Puts at puts
  unfold queue at puts ⊢
  rcases turns_after foyer move hub with same | ⟨roster, change, found, after, causes⟩
  · rw [same] at puts
    exact absurd puts (Nat.lt_irrefl _)
  · rw [found, after, Option.map_some, Option.map_some, Option.getD_some,
      Option.getD_some] at puts
    rcases @Roster.queue_changed roster session change (by rintro other does rfl; exact causes)
      with shrunk | ⟨room, sender, passed, rfl, sits, apart, grown⟩
    · exact absurd puts (Nat.not_lt.mpr (shrunk.count_le frame))
    · obtain ⟨id, moment, document, next, rfl, job, visiting⟩ := causes
      have equal : passed = frame := by
        rw [grown, List.count_append, List.count_singleton] at puts
        by_contra other
        simp [other] at puts
      cases equal
      refine ⟨id, moment, document, sender, rfl, ⟨⟨next, job⟩, ⟨roster, room, found, visiting,
        sits⟩, apart⟩, ?_⟩
      rw [found, after, Option.map_some, Option.map_some, Option.getD_some, Option.getD_some,
        grown]

omit [Lease.Store S] [Medium B Fault Ask Answer] in
/-- A job that has passed a frame on goes on with the answer. -/
theorem PassesTo.answered (passes : foyer.PassesTo id hub document sender session frame)
    (moment : Lock.Moment) : ∃ next reached, foyer.hubs.jobs.get? id =
        some ⟨hub, .ask (.broadcast document sender frame) next, none⟩ ∧
      (foyer.step id moment).hubs.jobs.get? id = some ⟨hub, next reached, none⟩ := by
  obtain ⟨next, job⟩ := passes.job
  obtain ⟨roster, room, found, visiting, -⟩ := passes.seat
  obtain ⟨held, hubFound, rfl⟩ := Option.map_eq_some_iff.mp found
  refine ⟨next, (held.roster.pass room sender frame).1, job, ?_⟩
  simp only [step, job, attend, hubFound, visiting]
  exact (Hubs.get?_setJob id id _).trans (if_pos rfl)

end

/-! ## Who sits at a document -/

section

variable [Lease.Store S] [Lease.Lawful S] [Medium B Fault Ask Answer]
  {archive : Archive Ask Answer} {keeping : archive.Keeping B Fault} {engine : Engine}
  {first : DocumentId → keeping.Place} {start : Foyer S B Ask Answer}
  {path early : List (Foyer S B Ask Answer × Move B Fault)}

/-- Whether a session has come to a document on a path, and has been shown its room. -/
def HasCome (path : List (Foyer S B Ask Answer × Move B Fault)) (hub : HubId)
    (document : DocumentId) (session : SessionId) : Prop :=
  ∃ before roster, (before, .hubs (.join hub document)) ∈ path ∧
    before.hubs.roster? hub = some roster ∧ roster.nextSession = session

omit [Lease.Store S] [Lease.Lawful S] [Medium B Fault Ask Answer] in
theorem roster?_arrive {roster : Roster} (found : foyer.hubs.roster? hub = some roster) :
    (foyer.arrive hub document).hubs.roster? hub = some (roster.changed (.entered document)) := by
  obtain ⟨held, hubFound, rfl⟩ := Option.map_eq_some_iff.mp found
  simp only [arrive, hubFound]
  exact (roster?_setHub hub).trans (if_pos rfl)

omit [Lease.Store S] [Lease.Lawful S] in
/-- A job that is shown a room shows none to a session. -/
theorem visits_of_attend {id : JobId} {home : HubId} {target : DocumentId} {room : RoomId}
    {act : Roster → RoomId → Nat → Nat × Roster} {next : Nat → Hub.Handling}
    (visiting : (foyer.attend id home target act next).visits.get?
      ⟨hub, document, .session session⟩ = some room) :
    foyer.visits.get? ⟨hub, document, .session session⟩ = some room := by
  unfold attend at visiting
  split at visiting
  · exact visiting
  · split at visiting
    · exact (Table.get?_of_erase visiting).2
    · split at visiting
      · rwa [Table.get?_insert, if_neg (by simp)] at visiting
      · exact visiting

omit [Lease.Lawful S] in
/-- Only those are shown a room who come. -/
theorem visits_of_session {room : RoomId}
    (visiting : (foyer.after move).visits.get? ⟨hub, document, .session session⟩ = some room) :
    foyer.visits.get? ⟨hub, document, .session session⟩ = some room ∨
      move = .hubs (.join hub document) ∧ ∃ roster, foyer.hubs.roster? hub = some roster ∧
        roster.nextSession = session := by
  cases move with
  | sit id target other =>
      left
      simp only [after, sit] at visiting
      split at visiting
      · exact visiting
      · exact (Table.get?_of_erase visiting).2
  | visit guest id target =>
      left
      simp only [after, visit] at visiting
      split at visiting
      · exact visiting
      · rwa [Table.get?_insert, if_neg (by simp)] at visiting
  | quit guest id target =>
      exact .inl (Table.get?_of_erase visiting).2
  | hubs move =>
      cases move with
      | join id target =>
          simp only [after, arrive] at visiting
          split at visiting
          · exact .inl visiting
          · next held found =>
              rw [Table.get?_insert] at visiting
              split at visiting
              · next mine =>
                  cases mine
                  exact .inr ⟨rfl, held.roster, roster?_of_found found,
                    Roster.outboxes_enter.1.symm⟩
              · exact .inl visiting
      | step id moment =>
          left
          simp only [after, step] at visiting
          split at visiting
          · exact visits_of_attend visiting
          · exact visits_of_attend visiting
          · exact visiting
      | _ => exact .inl visiting

omit [Lease.Store S] [Lease.Lawful S] [Medium B Fault Ask Answer] in
theorem HasCome.later {at' : Foyer S B Ask Answer × Move B Fault}
    (come : HasCome path hub document session) : HasCome (at' :: path) hub document session := by
  obtain ⟨before, roster, member, found, number⟩ := come
  exact ⟨before, roster, List.mem_cons_of_mem _ member, found, number⟩

omit [Lease.Store S] [Lease.Lawful S] [Medium B Fault Ask Answer] in
theorem HasJoined.later {at' : Foyer S B Ask Answer × Move B Fault}
    (joined : HasJoined path hub document session) :
    HasJoined (at' :: path) hub document session := by
  obtain ⟨before, room, member, visiting⟩ := joined
  exact ⟨before, room, List.mem_cons_of_mem _ member, visiting⟩

/-- Sessions are numbered as they come. -/
theorem Run.numbered (run : Run keeping start path foyer)
    (come : HasCome path hub document session) :
    ∃ roster, foyer.hubs.roster? hub = some roster ∧ session < roster.nextSession := by
  induction run with
  | start =>
      obtain ⟨before, roster, member, -⟩ := come
      cases member
  | @move path foyer move run permitted ih =>
      obtain ⟨before, roster, member, found, rfl⟩ := come
      rcases List.mem_cons.mp member with equal | earlier
      · cases equal
        obtain ⟨-, next⟩ := @Roster.nextSession_changed roster (.entered document)
        exact ⟨_, roster?_arrive found, next document rfl ▸ Nat.lt_succ_self _⟩
      · obtain ⟨roster', found', old⟩ := ih ⟨before, roster, earlier, found, rfl⟩
        rcases turns_after foyer move hub with same | ⟨roster'', change, found'', after, causes⟩
        · exact ⟨roster', same.trans found', old⟩
        · cases found'.symm.trans found''
          exact ⟨_, after, Nat.lt_of_lt_of_le old (Roster.nextSession_changed change).1⟩

/-- A session comes to one document only. -/
theorem Run.come_once (run : Run keeping start path foyer) {other : DocumentId}
    (come : HasCome path hub document session) (again : HasCome path hub other session) :
    document = other := by
  induction run with
  | start =>
      obtain ⟨before, roster, member, -⟩ := come
      cases member
  | @move path foyer move run permitted ih =>
      obtain ⟨before, roster, member, found, rfl⟩ := come
      obtain ⟨before', roster', member', found', number⟩ := again
      have fresh : ∀ {target : DocumentId} {at' : Foyer S B Ask Answer} {shown now : Roster},
          (at', .hubs (.join hub target)) ∈ path → at'.hubs.roster? hub = some shown →
          foyer.hubs.roster? hub = some now → shown.nextSession ≠ now.nextSession := by
        intro target at' shown now earlier shownFound nowFound
        obtain ⟨latest, latestFound, old⟩ := run.numbered ⟨at', shown, earlier, shownFound, rfl⟩
        cases latestFound.symm.trans nowFound
        exact Nat.ne_of_lt old
      rcases List.mem_cons.mp member with equal | earlier
      · cases equal
        rcases List.mem_cons.mp member' with equal | earlier'
        · cases equal
          rfl
        · exact absurd number (fresh earlier' found' found)
      · rcases List.mem_cons.mp member' with equal | earlier'
        · cases equal
          exact absurd number.symm (fresh earlier found found')
        · exact ih ⟨before, roster, earlier, found, rfl⟩ ⟨before', roster', earlier', found', number⟩

theorem Run.come_of_visits (run : Run keeping start path foyer)
    (vacant : start.visits = .empty) {room : RoomId}
    (visiting : foyer.visits.get? ⟨hub, document, .session session⟩ = some room) :
    HasCome path hub document session := by
  induction run with
  | start =>
      rw [vacant] at visiting
      cases visiting
  | @move path foyer move run permitted ih =>
      rcases visits_of_session visiting with before | ⟨rfl, roster, found, number⟩
      · exact (ih before).later
      · exact ⟨foyer, roster, List.mem_cons_self .., found, number⟩

/-- A session joins one document only. -/
theorem Run.joined_once (run : Run keeping start path foyer)
    (vacant : start.visits = .empty) {other : DocumentId}
    (joined : HasJoined path hub document session) (again : HasJoined path hub other session) :
    document = other := by
  have came : ∀ {target : DocumentId}, HasJoined path hub target session →
      HasCome path hub target session := by
    rintro target ⟨before, room, member, visiting⟩
    obtain ⟨late, early, equal⟩ := List.append_of_mem member
    obtain ⟨earlier, -⟩ := run.split equal
    obtain ⟨at', roster, come, found, number⟩ := earlier.come_of_visits vacant visiting
    refine ⟨at', roster, ?_, found, number⟩
    rw [equal]
    exact List.mem_append_right _ (List.mem_cons_of_mem _ come)
  exact run.come_once (came joined) (came again)

/-- Who sits at a document has joined it. -/
theorem Run.joined_of_sits (run : Run keeping start path foyer)
    (starts : start.Starts keeping engine first)
    (vacant : ∀ hub roster, start.hubs.roster? hub = some roster → roster = .empty)
    {roster : Roster} {room : RoomId} (found : foyer.hubs.roster? hub = some roster)
    (here : roster.room? document = some room) (sits : roster.Sits room session) :
    HasJoined path hub document session := by
  induction run generalizing roster room with
  | start =>
      cases vacant hub roster found
      cases here
  | @move path foyer move run permitted ih =>
      rcases turns_after foyer move hub with same | ⟨roster', change, found', after, causes⟩
      · exact (ih (same.symm.trans found) here sits).later
      · rw [after] at found
        cases found
        have sound := run.sound starts
        obtain ⟨before, sat | rfl⟩ := (sound.rosters found').sits_of_changed here sits
        · exact (ih found' before sat).later
        · obtain ⟨target, rfl, visiting⟩ := causes
          obtain ⟨shown, shownFound, there, -⟩ := sound.visits visiting
          cases found'.symm.trans shownFound
          cases (sound.rosters found').apart before there
          exact ⟨foyer, room, List.mem_cons_self .., visiting⟩

end

end Foyer

end Coedit
