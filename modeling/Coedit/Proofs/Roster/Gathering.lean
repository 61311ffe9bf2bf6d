import Coedit.Hub
import Coedit.Proofs.Roster.Seats
import Mathlib.Data.Finset.Card
import Mathlib.Data.Multiset.Filter

/-!
# Gatherings

Sessions come to documents and go, pass frames on, announce their presence and ask for that of
the others, and read what is in their outboxes.  What has happened tells who is where and what
each of them said last; a broadcast reaches just those, an outbox delivers in the order in which
it was filled, and who asks for the presences is told just those of the ones who are there.
-/

namespace Coedit

theorem Outbox.accepts_iff {outbox : Outbox} :
    outbox.accepts = true ↔ outbox.isOpen = true ∧ outbox.queue.length < 256 := by
  simp only [accepts, hasRoom, Bool.and_eq_true, decide_eq_true_iff]
  exact Iff.rfl

namespace Roster

variable {roster : Roster} {document : DocumentId} {session : SessionId} {payload : Bytes}

/-- Take the oldest frames out of the outbox of a session, so many at most. -/
def take (roster : Roster) (session : SessionId) (count : Nat) : List Frame × Roster :=
  ((roster.outbox session).queue.take count, roster.modifyOutbox session fun outbox =>
    { outbox with queue := outbox.queue.drop count })

/-- To take everything out is to take out as many frames as there are. -/
theorem receive_eq_take :
    roster.receive session = roster.take session (roster.outbox session).queue.length := by
  unfold receive take modifyOutbox Table.modify outbox
  rw [List.take_length]
  cases roster.outboxes.get? session with
  | none => rfl
  | some outbox =>
      dsimp only [Option.getD_some]
      rw [List.drop_length]
      rfl

/-- Answer what handling a frame asks of the roster.  A roster by itself has nothing loaded, and
its sections hand nothing out. -/
def answer : (call : Hub.Call) → Roster → call.Answer × Roster
  | .section _ _, roster => (.ok none, roster)
  | .broadcast document sender frame, roster => roster.broadcast document sender frame
  | .announce document session payload, roster =>
      ((), roster.setAwareness document session payload)
  | .presences document, roster => (roster.awareness document, roster)
  | .depart document session, roster => roster.leave document session
  | .isLoaded _, roster => (false, roster)

/-- Handle a frame of a session. -/
def handle (roster : Roster) (document : DocumentId) (session : SessionId) (frame : Frame) :
    Hub.Outcome × Roster :=
  (Hub.handle document session frame).run answer roster

theorem handle_awareness :
    roster.handle document session (.awareness payload) = (.ok [],
      ((roster.setAwareness document session payload).broadcast document session
        (.awareness payload)).2) := rfl

theorem handle_query :
    roster.handle document session ⟨.query, payload⟩ =
      (.ok ((roster.awareness document).map .awareness), roster) := rfl

end Roster

/-- Whether a call can be answered by a roster alone. -/
def Hub.Call.asksRoster : Hub.Call → Bool
  | .section _ _ => false
  | .isLoaded _ => false
  | _ => true

/-- What a job asks of the roster of its hub is answered as the roster by itself answers it. -/
theorem Hubs.step_asks {S B Ask : Type} {Answer : Ask → Type} {hubs : Hubs S B Ask Answer}
    {id : JobId} {at' : HubId} {hub : Hub} (found : hubs.hubs.get? at' = some hub)
    {call : Hub.Call} (asks : call.asksRoster = true) {next : call.Answer → Hub.Handling}
    (job : hubs.jobs.get? id = some ⟨at', .ask call next, none⟩) (moment : Lock.Moment) :
    ((hubs.step id moment).hubs.get? at').map Hub.roster = some (hub.roster.answer call).2 ∧
      (hubs.step id moment).jobs.get? id =
        some ⟨at', next (hub.roster.answer call).1, none⟩ := by
  simp only [step, job, found]
  cases call with
  | «section» document task => cases asks
  | isLoaded document => cases asks
  | broadcast document sender frame =>
      simp [Hubs.answer, setHub, setJob, Roster.answer]
  | announce document session payload =>
      simp [Hubs.answer, setHub, setJob, Roster.answer]
  | presences document =>
      simp [Hubs.answer, setJob, Roster.answer, found]
  | depart document session =>
      simp [Hubs.answer, setHub, setJob, Roster.answer]

/-! ## What happens -/

inductive Gathering.Act where
  | join (document : DocumentId)
  | leave (document : DocumentId) (session : SessionId)
  /-- A session reads so many frames at most. -/
  | read (session : SessionId) (count : Nat)
  /-- A session takes no more frames. -/
  | close (session : SessionId)
  | broadcast (document : DocumentId) (sender : SessionId) (frame : Frame)
  /-- A session sends a frame that announces its presence. -/
  | announce (document : DocumentId) (session : SessionId) (payload : Bytes)
  /-- A session sends a frame that asks for everyone's presence. -/
  | ask (document : DocumentId) (session : SessionId) (payload : Bytes)

/-- The roster after an act. -/
def Roster.did (roster : Roster) : Gathering.Act → Roster
  | .join document => (roster.join document).2
  | .leave document session => (roster.leave document session).2
  | .read session count => (roster.take session count).2
  | .close session => roster.modifyOutbox session Outbox.close
  | .broadcast document sender frame => (roster.broadcast document sender frame).2
  | .announce document session payload => (roster.handle document session (.awareness payload)).2
  | .ask document session payload => (roster.handle document session ⟨.query, payload⟩).2

/-- What has happened, the latest first. -/
abbrev Gathering := List Gathering.Act

namespace Gathering

/-- The roster that has come about. -/
def roster : Gathering → Roster
  | [] => .empty
  | act :: past => (roster past).did act

/-- How many sessions have come.  Each gets the next number. -/
def arrivals : Gathering → Nat
  | [] => 0
  | .join _ :: past => arrivals past + 1
  | _ :: past => arrivals past

/-- The sessions that have joined a document and not left it since. -/
def members : Gathering → DocumentId → Finset SessionId
  | [], _ => ∅
  | .join joined :: past, document =>
      if joined = document then insert (arrivals past + 1) (members past document)
      else members past document
  | .leave left session :: past, document =>
      if left = document then (members past document).erase session else members past document
  | _ :: past, document => members past document

/-- What a session has announced last at a document since it joined. -/
def said : Gathering → DocumentId → SessionId → Option Bytes
  | [], _, _ => none
  | .join _ :: past, document, session =>
      if session = arrivals past + 1 then none else said past document session
  | .announce there speaker payload :: past, document, session =>
      if there = document ∧ speaker = session then some payload else said past document session
  | _ :: past, document, session => said past document session

/-- Whether a session has closed its outbox since it joined. -/
def Closed : Gathering → SessionId → Prop
  | [], _ => False
  | .join _ :: past, session => session ≠ arrivals past + 1 ∧ Closed past session
  | .close closed :: past, session => closed = session ∨ Closed past session
  | _ :: past, session => Closed past session

/-- The sessions that a broadcast reaches: those at the document, but the sender, whose outboxes
are open and have room. -/
def reached (past : Gathering) (document : DocumentId) (sender : SessionId) :
    Finset SessionId :=
  (past.members document).filter fun session =>
    session ≠ sender ∧ (past.roster.outbox session).isOpen = true ∧
      (past.roster.outbox session).queue.length < 256

/-- The frames that were put into the outbox of a session, the oldest first. -/
def queued : Gathering → SessionId → List Frame
  | [], _ => []
  | .broadcast document sender frame :: past, session =>
      if session ∈ reached past document sender then queued past session ++ [frame]
      else queued past session
  | .announce document sender payload :: past, session =>
      if session ∈ reached past document sender then queued past session ++ [.awareness payload]
      else queued past session
  | _ :: past, session => queued past session

/-- The frames that a session has read, the oldest first. -/
def delivered : Gathering → SessionId → List Frame
  | [], _ => []
  | .read reader count :: past, session =>
      if reader = session then delivered past session ++ ((roster past).take session count).1
      else delivered past session
  | _ :: past, session => delivered past session

variable {past : Gathering} {roster : Roster} {document there : DocumentId}
  {session sender : SessionId} {frame : Frame}

/-- Whether a session has this number. -/
def Came (past : Gathering) (session : SessionId) : Prop := 0 < session ∧ session ≤ past.arrivals

theorem not_came_next : ¬ past.Came (past.arrivals + 1) := fun came =>
  Nat.not_succ_le_self _ came.2

theorem Came.later (came : past.Came session) : Came (.join there :: past) session :=
  ⟨came.1, Nat.le_succ_of_le came.2⟩

/-- Who is there has come. -/
theorem came_of_mem (member : session ∈ past.members document) : past.Came session := by
  induction past with
  | nil => exact absurd member (Finset.notMem_empty session)
  | cons act past ih =>
      cases act with
      | join joined =>
          unfold members at member
          split at member
          · rcases Finset.mem_insert.mp member with rfl | before
            · exact ⟨Nat.succ_pos _, Nat.le_refl _⟩
            · exact (ih before).later
          · exact (ih member).later
      | leave left leaving =>
          unfold members at member
          split at member
          · exact ih (Finset.mem_of_mem_erase member)
          · exact ih member
      | read reader count => exact ih member
      | close closed => exact ih member
      | broadcast there sender frame => exact ih member
      | announce there speaker payload => exact ih member
      | ask there asker payload => exact ih member

/-- Who comes next is not there yet. -/
theorem next_notMem : past.arrivals + 1 ∉ past.members document := fun member =>
  not_came_next (came_of_mem member)

theorem mem_reached :
    session ∈ past.reached document sender ↔ session ∈ past.members document ∧
      session ≠ sender ∧ (past.roster.outbox session).isOpen = true ∧
        (past.roster.outbox session).queue.length < 256 := Finset.mem_filter

/-! ## Who sits where -/

/-- A roster whose seats are those of the members, each with what was said last. -/
structure Seated (past : Gathering) (roster : Roster) : Prop where
  sound : roster.Sound
  next : roster.nextSession = past.arrivals + 1
  seats (document : DocumentId) (session : SessionId) : roster.seat? document session =
    if session ∈ past.members document then some (past.said document session) else none

namespace Seated

theorem nil : Seated [] .empty := ⟨Roster.sound_empty, rfl, fun _ _ => rfl⟩

theorem isSome_iff (seated : past.Seated roster) :
    (roster.seat? document session).isSome = true ↔ session ∈ past.members document := by
  rw [seated.seats]
  split
  · next member => exact iff_of_true rfl member
  · next absent => exact iff_of_false Bool.false_ne_true absent

theorem join (seated : past.Seated roster) :
    Seated (.join there :: past) (roster.join there).2 := by
  refine ⟨seated.sound.join, ?_, ?_⟩
  · rw [Roster.join_beside.2.1, seated.next]
    rfl
  · intro document session
    rw [Roster.seat?_join seated.sound, seated.seats, seated.next]
    simp only [members, said]
    by_cases here : there = document
    · subst here
      by_cases new : session = past.arrivals + 1
      · subst new
        simp
      · have other : ¬ past.arrivals + 1 = session := Ne.symm new
        simp [new, other]
    · by_cases new : session = past.arrivals + 1
      · subst new
        simp [here, next_notMem]
      · simp [here, new]

theorem leave (seated : past.Seated roster) {leaving : SessionId} :
    Seated (.leave there leaving :: past) (roster.leave there leaving).2 := by
  refine ⟨seated.sound.leave, Roster.leave_beside.1.trans seated.next, ?_⟩
  intro document session
  rw [Roster.seat?_leave seated.sound, seated.seats]
  simp only [members, said]
  by_cases here : there = document
  · subst here
    by_cases leaves : leaving = session
    · subst leaves
      simp
    · have other : ¬ session = leaving := Ne.symm leaves
      simp [leaves, other]
  · simp [here]

/-- Nobody moves when something is done with outboxes only. -/
theorem beside (seated : past.Seated roster) {outboxes : Table SessionId Outbox} :
    past.Seated { roster with outboxes := outboxes } :=
  ⟨⟨seated.sound.bounded, seated.sound.apart⟩, seated.next, seated.seats⟩

theorem broadcast (seated : past.Seated roster) :
    past.Seated (roster.broadcast document sender frame).2 := by
  rw [Roster.broadcast_beside]
  exact seated.beside

theorem setAwareness (seated : past.Seated roster) {speaker : SessionId} {payload : Bytes} :
    Seated (.announce there speaker payload :: past)
      (roster.setAwareness there speaker payload) := by
  refine ⟨seated.sound.setAwareness, ?_, ?_⟩
  · exact Roster.nextSession_setAwareness.trans seated.next
  · intro document session
    rw [Roster.seat?_setAwareness seated.sound, seated.seats]
    simp only [members, said]
    by_cases meant : there = document ∧ speaker = session
    · by_cases member : session ∈ past.members document
      · simp [meant, member]
      · simp [meant, member]
    · simp only [if_neg meant]

/-- After each act the seats are those of the members. -/
theorem did (seated : past.Seated roster) (act : Act) : Seated (act :: past) (roster.did act) := by
  cases act with
  | join there => exact seated.join
  | leave there leaving => exact seated.leave
  | read reader count =>
      have same := @beside past roster seated (roster.take reader count).2.outboxes
      exact ⟨same.sound, same.next, same.seats⟩
  | close closed =>
      have same := @beside past roster seated (roster.modifyOutbox closed Outbox.close).outboxes
      exact ⟨same.sound, same.next, same.seats⟩
  | broadcast there sender frame =>
      have same := @broadcast past roster there sender frame seated
      exact ⟨same.sound, same.next, same.seats⟩
  | announce there speaker payload =>
      rw [Roster.did, Roster.handle_awareness]
      exact seated.setAwareness.broadcast
  | ask there asker payload => exact ⟨seated.sound, seated.next, seated.seats⟩

end Seated

/-! ## What is in the outboxes -/

/-- A roster with an outbox for each session that has come, in which the frames are that it was
sent and has not read. -/
structure Filled (past : Gathering) (roster : Roster) : Prop where
  known (session : SessionId) :
    (roster.outboxes.get? session).isSome = true ↔ past.Came session
  queues (session : SessionId) :
    past.delivered session ++ (roster.outbox session).queue = past.queued session
  opens {session : SessionId} (came : past.Came session) :
    (roster.outbox session).isOpen = true ↔ ¬ past.Closed session

namespace Filled

theorem nil : Filled [] .empty where
  known _ := iff_of_false Bool.false_ne_true fun came => Nat.not_le_of_lt came.1 came.2
  queues _ := rfl
  opens came := absurd came.2 (Nat.not_le_of_lt came.1)

theorem get?_of_came (filled : past.Filled roster) (came : past.Came session) :
    roster.outboxes.get? session = some (roster.outbox session) := by
  obtain ⟨outbox, found⟩ := Option.isSome_iff_exists.mp ((filled.known session).mpr came)
  rw [Roster.outbox, found, Option.getD_some]

/-- For who has not come there is nothing. -/
theorem outbox_of_not_came (filled : past.Filled roster) (absent : ¬ past.Came session) :
    roster.outbox session = .empty := by
  rw [← filled.known, Option.not_isSome_iff_eq_none] at absent
  rw [Roster.outbox, absent, Option.getD_none]

theorem join (filled : past.Filled roster) (next : roster.nextSession = past.arrivals + 1) :
    Filled (.join there :: past) (roster.join there).2 := by
  have after (session : SessionId) : (roster.join there).2.outboxes.get? session =
      if past.arrivals + 1 = session then some .empty else roster.outboxes.get? session := by
    rw [Roster.join_beside.2.2, next, Table.get?_insert]
  have outbox (session : SessionId) : (roster.join there).2.outbox session =
      if past.arrivals + 1 = session then .empty else roster.outbox session := by
    rw [Roster.outbox, after]
    split
    · rfl
    · rfl
  have old {session : SessionId} (came : Came (.join there :: past) session)
      (other : past.arrivals + 1 ≠ session) : past.Came session :=
    ⟨came.1, Nat.le_of_lt_succ (Nat.lt_of_le_of_ne came.2 (Ne.symm other))⟩
  constructor
  case known =>
    intro session
    rw [after]
    split
    · next comes => exact iff_of_true rfl (comes ▸ ⟨Nat.succ_pos _, Nat.le_refl _⟩)
    · next other =>
        rw [filled.known]
        exact ⟨Came.later, fun came => old came other⟩
  case queues =>
    intro session
    refine Eq.trans ?_ (filled.queues session)
    rw [outbox]
    split
    · next comes =>
        -- under the next number nothing was queued and nothing was read
        rw [← comes, filled.outbox_of_not_came not_came_next]
        rfl
    · rfl
  case opens =>
    intro session came
    rw [outbox]
    split
    · next comes => exact iff_of_true rfl fun closed => closed.1 comes.symm
    · next other =>
        rw [filled.opens (old came other)]
        exact not_congr (and_iff_right (Ne.symm other)).symm

/-- Outboxes that stay as they are. -/
theorem beside (filled : past.Filled roster) {after : Roster}
    (same : after.outboxes = roster.outboxes) : past.Filled after := by
  have outbox (session : SessionId) : after.outbox session = roster.outbox session := by
    rw [Roster.outbox, same]
    rfl
  constructor
  · intro session
    rw [same]
    exact filled.known session
  · intro session
    rw [outbox]
    exact filled.queues session
  · intro session came
    rw [outbox]
    exact filled.opens came

/-- What is done with the outbox of one session is done with that of no other. -/
theorem outbox_modifyOutbox (filled : past.Filled roster) {changed : SessionId}
    {change : Outbox → Outbox} (came : past.Came session) :
    (roster.modifyOutbox changed change).outbox session =
      if changed = session then change (roster.outbox session) else roster.outbox session := by
  rw [Roster.outbox, Roster.modifyOutbox, Table.get?_modify, filled.get?_of_came came]
  split
  · rfl
  · rfl

theorem known_modifyOutbox (filled : past.Filled roster) {changed : SessionId}
    {change : Outbox → Outbox} :
    ((roster.modifyOutbox changed change).outboxes.get? session).isSome = true ↔
      past.Came session := by
  rw [← filled.known, Roster.modifyOutbox, Table.get?_modify]
  split
  · rw [Option.isSome_map]
  · rfl

theorem outbox_modifyOutbox_of_not_came (filled : past.Filled roster) {changed : SessionId}
    {change : Outbox → Outbox} (absent : ¬ past.Came session) :
    (roster.modifyOutbox changed change).outbox session = .empty := by
  rw [← filled.known_modifyOutbox, Option.not_isSome_iff_eq_none] at absent
  rw [Roster.outbox, absent, Option.getD_none]

/-- What is read goes from the front of the queue to what was delivered. -/
theorem read (filled : past.Filled past.roster) {reader : SessionId} {count : Nat} :
    Filled (.read reader count :: past) (past.roster.take reader count).2 := by
  constructor
  case known =>
    intro session
    exact filled.known_modifyOutbox
  case queues =>
    intro session
    refine Eq.trans ?_ (filled.queues session)
    by_cases came : past.Came session
    · rw [Roster.take, filled.outbox_modifyOutbox came]
      simp only [delivered]
      split
      · next reads =>
          subst reads
          rw [List.append_assoc]
          exact congrArg _ (List.take_append_drop _ _)
      · rfl
    · rw [Roster.take, filled.outbox_modifyOutbox_of_not_came came,
        filled.outbox_of_not_came came]
      simp only [delivered]
      split
      · next reads =>
          subst reads
          rw [Roster.take, filled.outbox_of_not_came came, List.append_assoc]
          exact congrArg _ (List.append_nil _ ▸ List.take_nil)
      · rfl
  case opens =>
    intro session came
    refine Iff.trans ?_ (filled.opens came)
    rw [Roster.take, filled.outbox_modifyOutbox came]
    split
    · rfl
    · rfl

theorem close (filled : past.Filled roster) {closed : SessionId} :
    Filled (.close closed :: past) (roster.modifyOutbox closed Outbox.close) := by
  constructor
  case known =>
    intro session
    exact filled.known_modifyOutbox
  case queues =>
    intro session
    refine Eq.trans ?_ (filled.queues session)
    by_cases came : past.Came session
    · rw [filled.outbox_modifyOutbox came]
      split
      · rfl
      · rfl
    · rw [filled.outbox_modifyOutbox_of_not_came came, filled.outbox_of_not_came came]
      rfl
  case opens =>
    intro session came
    rw [filled.outbox_modifyOutbox came]
    split
    · next closes => exact iff_of_false Bool.false_ne_true fun stays => stays (.inl closes)
    · next other =>
        rw [filled.opens came]
        exact not_congr (or_iff_right other).symm

/-- A broadcast puts the frame into the outboxes of those it reaches, at the end. -/
theorem get?_broadcast (filled : past.Filled past.roster)
    (same : roster.outboxes = past.roster.outboxes)
    (sits : ∀ session, (roster.seat? document session).isSome = true ↔
      session ∈ past.members document) (session : SessionId) :
    (roster.broadcast document sender frame).2.outboxes.get? session =
      if session ∈ past.reached document sender then
        some { past.roster.outbox session with
          queue := (past.roster.outbox session).queue ++ [frame] }
      else past.roster.outboxes.get? session := by
  rw [Roster.outboxes_broadcast, same]
  simp only [sits]
  by_cases meant : session ∈ past.members document ∧ session ≠ sender
  · have found := filled.get?_of_came (came_of_mem meant.1)
    rw [if_pos meant, found, Option.map_some, Outbox.offer]
    by_cases accepts : (past.roster.outbox session).accepts = true
    · have reached : session ∈ past.reached document sender :=
        mem_reached.mpr ⟨meant.1, meant.2, Outbox.accepts_iff.mp accepts⟩
      rw [if_pos accepts, if_pos reached]
    · have unreached : session ∉ past.reached document sender := fun reached =>
        accepts (Outbox.accepts_iff.mpr (mem_reached.mp reached).2.2)
      rw [if_neg accepts, if_neg unreached]
  · have unreached : session ∉ past.reached document sender := fun reached =>
      meant ⟨(mem_reached.mp reached).1, (mem_reached.mp reached).2.1⟩
    rw [if_neg meant, if_neg unreached]

/-- What a broadcast puts into outboxes is queued there. -/
theorem broadcast (filled : past.Filled past.roster)
    (passed : ∀ session, roster.outboxes.get? session =
      if session ∈ past.reached document sender then
        some { past.roster.outbox session with
          queue := (past.roster.outbox session).queue ++ [frame] }
      else past.roster.outboxes.get? session) :
    Filled (.broadcast document sender frame :: past) roster := by
  have outbox (session : SessionId) : roster.outbox session =
      if session ∈ past.reached document sender then
        { past.roster.outbox session with
          queue := (past.roster.outbox session).queue ++ [frame] }
      else past.roster.outbox session := by
    rw [Roster.outbox, passed]
    split
    · rfl
    · rfl
  constructor
  case known =>
    intro session
    rw [passed]
    split
    · next reached => exact iff_of_true rfl (came_of_mem (mem_reached.mp reached).1)
    · exact filled.known session
  case queues =>
    intro session
    have queues := filled.queues session
    rw [outbox]
    simp only [delivered, queued]
    split
    · rw [← List.append_assoc, queues]
    · exact queues
  case opens =>
    intro session came
    refine Iff.trans ?_ (filled.opens came)
    rw [outbox]
    split
    · rfl
    · rfl

end Filled

/-- After each act the outboxes hold what was put into them and has not been read. -/
theorem Filled.did (filled : past.Filled past.roster) (seated : past.Seated past.roster)
    (act : Act) : Filled (act :: past) (past.roster.did act) := by
  cases act with
  | join there => exact filled.join seated.next
  | leave there leaving =>
      have same := filled.beside (@Roster.leave_beside past.roster there leaving).2
      exact ⟨same.known, same.queues, same.opens⟩
  | read reader count => exact filled.read
  | close closed => exact filled.close
  | broadcast there sender frame =>
      exact filled.broadcast (filled.get?_broadcast rfl fun _ => seated.isSome_iff)
  | announce there speaker payload =>
      have sits (session : SessionId) :
          ((past.roster.setAwareness there speaker payload).seat? there session).isSome = true ↔
            session ∈ past.members there := seated.setAwareness.isSome_iff
      have passed : Filled (.broadcast there speaker (.awareness payload) :: past)
          ((past.roster.setAwareness there speaker payload).broadcast there speaker
            (.awareness payload)).2 :=
        filled.broadcast (filled.get?_broadcast Roster.register_setAwareness.2.2 sits)
      rw [Roster.did, Roster.handle_awareness]
      exact ⟨passed.known, passed.queues, passed.opens⟩
  | ask there asker payload => exact ⟨filled.known, filled.queues, filled.opens⟩

/-- Whatever has happened, the roster tells who is there and what is on its way. -/
theorem seated_filled (past : Gathering) : past.Seated past.roster ∧ past.Filled past.roster := by
  induction past with
  | nil => exact ⟨.nil, .nil⟩
  | cons act past ih => exact ⟨ih.1.did act, ih.2.did ih.1 act⟩

/-! ## What is found -/

/-- A broadcast returns how many sessions it reaches. -/
theorem broadcast_card (seated : past.Seated past.roster) (filled : past.Filled past.roster) :
    (past.roster.broadcast document sender frame).1 = (past.reached document sender).card := by
  let taking := ((past.roster.seats document).filter fun seat => seat.1 ≠ sender).filter
    fun seat => (past.roster.outboxes.get? seat.1).any Outbox.accepts
  have nodup : (taking.map Prod.fst).Nodup :=
    Table.nodup_keys_filter (Table.nodup_keys_filter (Roster.nodup_seats _ _))
  have same : past.reached document sender = (taking.map Prod.fst).toFinset := by
    ext session
    rw [mem_reached, List.mem_toFinset, ← seated.isSome_iff, ← Roster.mem_keys_seats]
    simp only [taking, List.mem_map, List.mem_filter, decide_eq_true_iff]
    constructor
    · rintro ⟨⟨seat, member, rfl⟩, apart, accepts⟩
      refine ⟨seat, ⟨⟨member, apart⟩, ?_⟩, rfl⟩
      have sits := Roster.mem_keys_seats.mp (List.mem_map_of_mem member)
      rw [filled.get?_of_came (came_of_mem (seated.isSome_iff.mp sits)), Option.any_some]
      exact Outbox.accepts_iff.mpr accepts
    · rintro ⟨seat, ⟨⟨member, apart⟩, accepts⟩, rfl⟩
      refine ⟨⟨seat, member, rfl⟩, apart, ?_⟩
      have sits := Roster.mem_keys_seats.mp (List.mem_map_of_mem member)
      rw [filled.get?_of_came (came_of_mem (seated.isSome_iff.mp sits)), Option.any_some]
        at accepts
      exact Outbox.accepts_iff.mp accepts
  rw [Roster.broadcast_count, same, List.toFinset_card_of_nodup nodup, List.length_map,
    List.countP_eq_length_filter]

/-- The presences at a document are what its members have said last. -/
theorem awareness_eq (seated : past.Seated past.roster) :
    (past.roster.awareness document : Multiset Bytes) =
      (past.members document).val.filterMap (past.said document) := by
  -- the seats are the members in some order, each of them once
  have who : (((past.roster.seats document).map Prod.fst : List SessionId) :
      Multiset SessionId) = (past.members document).val := by
    refine (Multiset.Nodup.ext ?_ (past.members document).nodup).mpr ?_
    · exact Multiset.coe_nodup.mpr (Roster.nodup_seats _ _)
    · intro session
      rw [Multiset.mem_coe, Roster.mem_keys_seats, seated.isSome_iff]
      rfl
  have what : past.roster.awareness document =
      ((past.roster.seats document).map Prod.fst).filterMap (past.said document) := by
    rw [List.filterMap_map]
    refine List.filterMap_congr fun seat member => ?_
    have found : past.roster.seat? document seat.1 = some seat.2 := Roster.mem_seats.mp member
    have sits := Roster.mem_keys_seats.mp (List.mem_map_of_mem member)
    rw [seated.seats, if_pos (seated.isSome_iff.mp sits)] at found
    exact (Option.some.inj found).symm
  rw [← who, what]
  rfl

/-- Whatever sessions have joined and left documents, read, closed their outboxes, passed frames
on, announced themselves and asked for the others, and however often: a broadcast is queued once
for each session at the document but the sender whose outbox is open and has room, changes
nothing else and returns how many these are; what a session reads is what was queued for it, in
that order; and who asks for the presences at a document is told what each of those who are
there said last since he joined, and nothing else. -/
theorem fan_out_exact (past : Gathering) :
    -- sessions are numbered as they come
    (∀ document, (past.roster.join document).1 = past.arrivals + 1) ∧
    (∀ document sender frame,
      let passed := past.roster.broadcast document sender frame
      passed.1 = (past.reached document sender).card ∧
      passed.2 = { past.roster with outboxes := passed.2.outboxes } ∧
      ∀ session, passed.2.outboxes.get? session =
        if session ∈ past.reached document sender then
          some { past.roster.outbox session with
            queue := (past.roster.outbox session).queue ++ [frame] }
        else past.roster.outboxes.get? session) ∧
    (∀ session,
      past.delivered session ++ (past.roster.outbox session).queue = past.queued session) ∧
    -- an outbox is open until its session closes it
    (∀ document, ∀ session ∈ past.members document,
      (past.roster.outbox session).isOpen = true ↔ ¬ past.Closed session) ∧
    ∀ document asker payload, ∃ frames,
      past.roster.handle document asker ⟨.query, payload⟩ = (.ok frames, past.roster) ∧
      (frames : Multiset Frame) = (past.members document).val.filterMap fun session =>
        (past.said document session).map Frame.awareness := by
  obtain ⟨seated, filled⟩ := past.seated_filled
  refine ⟨?_, ?_, filled.queues, ?_, ?_⟩
  · intro document
    rw [Roster.join_beside.1, seated.next]
  · intro document sender frame passed
    refine ⟨broadcast_card seated filled, Roster.broadcast_beside, ?_⟩
    exact filled.get?_broadcast rfl fun _ => seated.isSome_iff
  · intro document session member
    exact filled.opens (came_of_mem member)
  · intro document asker payload
    refine ⟨_, Roster.handle_query, ?_⟩
    rw [← Multiset.map_coe, awareness_eq seated, Multiset.map_filterMap]

/-- Somebody says something and leaves; somebody says something under a number that he gets only
later; and somebody who stays says nothing, but says so. -/
def meeting : Gathering :=
  let plans : DocumentId := ⟨"office", "plans"⟩
  [.announce plans 2 [], .leave plans 1, .join plans, .announce plans 4 [9], .announce plans 1 [7],
    .join ⟨"office", "notes"⟩, .join plans, .join plans]

/-- Of those who are still there the other one is reached, and what was said last is the empty
payload of the second, and nothing else. -/
theorem fan_out_exact_meeting :
    4 ∈ meeting.members ⟨"office", "plans"⟩ ∧ (meeting.roster.outbox 4).isOpen = true ∧
      (meeting.roster.broadcast ⟨"office", "plans"⟩ 2 (.sync .update [1])).1 = 1 ∧
      (meeting.roster.broadcast ⟨"office", "plans"⟩ 2 (.sync .update [1])).2.outboxes.get? 4 =
        some ⟨[.awareness [], .sync .update [1]], true⟩ ∧
      ∃ frames, meeting.roster.handle ⟨"office", "plans"⟩ 4 .query =
          (.ok frames, meeting.roster) ∧
        (frames : Multiset Frame) = {.awareness []} := by
  obtain ⟨-, passes, -, opens, asks⟩ := fan_out_exact meeting
  have member : 4 ∈ meeting.members ⟨"office", "plans"⟩ := by decide
  have reached : meeting.reached ⟨"office", "plans"⟩ 2 = {4} := by decide
  obtain ⟨count, -, outboxes⟩ := passes ⟨"office", "plans"⟩ 2 (.sync .update [1])
  refine ⟨member, (opens _ 4 member).mpr ?_, ?_, ?_, ?_⟩
  · simp [meeting, Closed]
  · rw [count, reached]
    rfl
  · rw [outboxes, reached, if_pos (Finset.mem_singleton_self 4)]
    rfl
  · obtain ⟨frames, told, same⟩ := asks ⟨"office", "plans"⟩ 4 []
    refine ⟨frames, told, same.trans ?_⟩
    decide

end Gathering

end Coedit
