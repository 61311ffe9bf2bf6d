import Coedit.Proofs.Roster.Rooms
import Mathlib.Data.List.Nodup
import Mathlib.Data.List.Perm.Subperm

/-!
# Lobbies

A roster whose steps are taken one by one by any number of guests.  To join takes two steps,
to leave takes three, and whoever only looks around takes one to find the room; each of them
holds the room he has found until he is through.  A room is taken off the register only by
somebody who is the only one to hold it, so that nobody is left behind in a room that cannot
be found any more.
-/

namespace Coedit

namespace Roster

variable {roster : Roster} {document : DocumentId} {room : RoomId} {session : SessionId}

/-- Who comes to a document sits nowhere yet. -/
theorem sits_of_enter (sits : (roster.enter document).2.Sits room session) :
    roster.Sits room session := by
  cases found : roster.room? document with
  | some held =>
      rw [enter_of_room found] at sits
      exact sits
  | none =>
      rw [enter_of_none found] at sits
      unfold Sits roomAt at sits ⊢
      rw [Table.get?_insert] at sits
      split at sits
      · cases sits
      · exact sits

theorem nextSession_enter :
    (roster.enter document).2.nextSession = roster.nextSession + 1 := by
  cases found : roster.room? document with
  | some held => rw [enter_of_room found]
  | none => rw [enter_of_none found]

/-- A session announces its presence in a room; only those who sit there are heard. -/
def announce (roster : Roster) (room : RoomId) (session : SessionId) (payload : Bytes) : Roster :=
  let seats := (roster.roomAt room).seats
  if seats.contains session then roster.setRoom room ⟨seats.insert session (some payload)⟩
  else roster

end Roster

/-- What a guest has still to do in the room he has found. -/
inductive Guest.Business where
  /-- To sit down. -/
  | join (session : SessionId)
  /-- To get up, or to see that a session is not there. -/
  | part (session : SessionId)
  /-- To take the room off the register, since nobody was left in it. -/
  | sweep
  /-- Nothing that changes who sits there. -/
  | look
  /-- Nothing, after the room may have been taken off the register. -/
  | gone
  deriving DecidableEq

/-- Somebody who has found the room of a document and holds it. -/
structure Guest where
  document : DocumentId
  room : RoomId
  business : Guest.Business
  deriving DecidableEq

/-- What is remembered of joining and leaving. -/
inductive Lobby.Event.Kind where
  /-- A session came to join. -/
  | came
  /-- It has joined. -/
  | joined
  /-- A session was asked to leave. -/
  | leaves
  /-- It was there, and has left. -/
  | left
  deriving DecidableEq

structure Lobby.Event where
  kind : Lobby.Event.Kind
  document : DocumentId
  session : SessionId
  deriving DecidableEq

/-- A roster, those who are about something there, and what has happened, latest first. -/
structure Lobby where
  roster : Roster
  guests : Table Nat Guest
  log : List Lobby.Event

namespace Lobby

/-! ## Steps -/

def empty : Lobby := ⟨.empty, .empty, []⟩

/-- How many hold a room, the register among them. -/
def visitors (lobby : Lobby) (room : RoomId) : Nat :=
  (lobby.roster.register.entries.filter fun entry => entry.2 = room).length +
    (lobby.guests.entries.filter fun entry => entry.2.room = room).length

/-- What can happen in a lobby.  Guests go by numbers, which are free again when they quit. -/
inductive Move where
  | enter (guest : Nat) (document : DocumentId)
  | sit (guest : Nat)
  | find (guest : Nat) (document : DocumentId) (session : SessionId)
  | rise (guest : Nat)
  | sweep (guest : Nat)
  | look (guest : Nat) (document : DocumentId)
  | pass (guest : Nat) (sender : SessionId) (frame : Frame)
  | announce (guest : Nat) (session : SessionId) (payload : Bytes)
  | quit (guest : Nat)
  | outbox (session : SessionId) (change : Outbox → Outbox)

/-- Change the roster and nothing else. -/
def onRoster (lobby : Lobby) (change : Roster → Roster) : Lobby :=
  { lobby with roster := change lobby.roster }

/-- The lobby after a move.  A move that nobody is about to make does nothing. -/
def after (lobby : Lobby) : Move → Lobby
  | .enter number document =>
      match lobby.guests.get? number with
      | some _ => lobby
      | none =>
          let ((session, room), roster) := lobby.roster.enter document
          { roster
            guests := lobby.guests.insert number ⟨document, room, .join session⟩
            log := ⟨.came, document, session⟩ :: lobby.log }
  | .sit number =>
      match lobby.guests.get? number with
      | some ⟨document, room, .join session⟩ =>
          { roster := lobby.roster.sit room session
            guests := lobby.guests.insert number ⟨document, room, .look⟩
            log := ⟨.joined, document, session⟩ :: lobby.log }
      | _ => lobby
  | .find number document session =>
      match lobby.guests.get? number with
      | some _ => lobby
      | none =>
          match lobby.roster.room? document with
          | none => { lobby with log := ⟨.leaves, document, session⟩ :: lobby.log }
          | some room =>
              { lobby with
                guests := lobby.guests.insert number ⟨document, room, .part session⟩
                log := ⟨.leaves, document, session⟩ :: lobby.log }
  | .rise number =>
      match lobby.guests.get? number with
      | some ⟨document, room, .part session⟩ =>
          let (left, roster) := lobby.roster.rise room session
          { roster
            guests := lobby.guests.insert number
              ⟨document, room, if left = 0 then .sweep else .look⟩
            log := if lobby.roster.Sits room session then ⟨.left, document, session⟩ :: lobby.log
              else lobby.log }
      | _ => lobby
  | .sweep number =>
      match lobby.guests.get? number with
      | some ⟨document, room, .sweep⟩ =>
          { lobby with
            roster := lobby.roster.sweep document room (lobby.visitors room)
            guests := lobby.guests.insert number ⟨document, room, .gone⟩ }
      | _ => lobby
  | .look number document =>
      match lobby.guests.get? number, lobby.roster.room? document with
      | none, some room =>
          { lobby with guests := lobby.guests.insert number ⟨document, room, .look⟩ }
      | _, _ => lobby
  | .pass number sender frame =>
      match lobby.guests.get? number with
      | some ⟨_, room, .look⟩ => lobby.onRoster fun roster => (roster.pass room sender frame).2
      | _ => lobby
  | .announce number session payload =>
      match lobby.guests.get? number with
      | some ⟨_, room, .look⟩ => lobby.onRoster fun roster => roster.announce room session payload
      | _ => lobby
  | .quit number =>
      match lobby.guests.get? number with
      | some ⟨_, _, .look⟩ => { lobby with guests := lobby.guests.erase number }
      | some ⟨_, _, .gone⟩ => { lobby with guests := lobby.guests.erase number }
      | _ => lobby
  | .outbox session change => lobby.onRoster fun roster => roster.modifyOutbox session change

/-- The lobbies that can come about. -/
inductive Run : Lobby → Prop where
  | start : Run empty
  | step {lobby : Lobby} (run : Run lobby) (move : Move) : Run (lobby.after move)

/-! ### Holders -/

variable {lobby : Lobby} {roster : Roster} {document other : DocumentId} {room : RoomId}
  {session session' : SessionId} {number : Nat} {guest : Guest}

/-- A room is on the register once. -/
theorem registered_once (sound : roster.Sound) (found : roster.room? document = some room) :
    (roster.register.entries.filter fun entry => entry.2 = room).length = 1 := by
  have distinct : roster.register.entries.Nodup := .of_map Prod.fst roster.register.nodup
  have same : (roster.register.entries.filter fun entry => entry.2 = room).Perm
      [(document, room)] := by
    refine (List.perm_ext_iff_of_nodup (distinct.filter _) (List.nodup_singleton _)).mpr ?_
    rintro ⟨other, room'⟩
    rw [List.mem_filter, List.mem_singleton, decide_eq_true_iff, ← Table.get?_eq_some_iff]
    constructor
    · rintro ⟨found', rfl⟩
      rw [sound.apart found found']
    · rintro ⟨rfl, rfl⟩
      exact ⟨found, rfl⟩
  exact same.length_eq

/-- A room that two guests hold has more visitors than the register and one who sweeps. -/
theorem visitors_gt (sound : lobby.roster.Sound)
    (registered : lobby.roster.room? document = some room) {number' : Nat} {guest' : Guest}
    (found : lobby.guests.get? number = some guest)
    (found' : lobby.guests.get? number' = some guest') (apart : number ≠ number')
    (here : guest.room = room) (here' : guest'.room = room) : 2 < lobby.visitors room := by
  have held : [(number, guest), (number', guest')].Subperm
      (lobby.guests.entries.filter fun entry => entry.2.room = room) := by
    have distinct : [(number, guest), (number', guest')].Nodup := by
      rw [List.nodup_cons, List.mem_singleton]
      exact ⟨fun same => apart (congrArg Prod.fst same), List.nodup_singleton _⟩
    refine List.Nodup.subperm distinct ?_
    intro entry mem
    rw [List.mem_filter, decide_eq_true_iff]
    rw [List.mem_cons, List.mem_singleton] at mem
    rcases mem with rfl | rfl
    · exact ⟨Table.get?_eq_some_iff.mp found, here⟩
    · exact ⟨Table.get?_eq_some_iff.mp found', here'⟩
  have two : 2 ≤ (lobby.guests.entries.filter fun entry => entry.2.room = room).length :=
    held.length_le
  rw [visitors, registered_once sound registered]
  omega

/-! ### Alone -/

/-- Who enters and sits down has joined. -/
theorem join_alone (free : lobby.guests.get? number = none) :
    ((lobby.after (.enter number document)).after (.sit number)).roster =
      (lobby.roster.join document).2 := by
  simp only [after, free, Table.get?_insert_self, Roster.join]

/-- Who finds the room, gets up and sweeps with nobody else about has left. -/
theorem leave_alone (alone : lobby.guests = .empty) (sound : lobby.roster.Sound) :
    (((lobby.after (.find number document session)).after (.rise number)).after
      (.sweep number)).roster = (lobby.roster.leave document session).2 := by
  have free : lobby.guests.get? number = none := by rw [alone, Table.get?_empty]
  cases found : lobby.roster.room? document with
  | none => simp only [after, free, found, Roster.leave]
  | some room =>
      have swept (risen : Roster) (registered : risen.register = lobby.roster.register) (log) :
          visitors ⟨risen, (lobby.guests.insert number ⟨document, room, .part session⟩).insert
            number ⟨document, room, .sweep⟩, log⟩ room = 2 := by
        unfold visitors
        rw [registered, registered_once sound found, alone]
        simp [Table.insert, Table.empty, Table.put]
      rw [Roster.leave_eq, found]
      simp only [after, free, found, Table.get?_insert_self, Roster.part]
      by_cases last : (lobby.roster.rise room session).1 = 0
      · simp only [if_pos last]
        rw [swept (lobby.roster.rise room session).2 rfl]
      · simp only [if_neg last]

/-- To announce is to look the room up and to announce in it. -/
theorem setAwareness_eq {payload : Bytes} :
    roster.setAwareness document session payload =
      match roster.room? document with
      | none => roster
      | some room => roster.announce room session payload := rfl

/-! ## What is remembered -/

variable {log log' : List Event} {next : SessionId} {kind : Event.Kind} {event : Event}

/-- The sessions that came. -/
def arrivals (log : List Event) : List SessionId :=
  (log.filter fun event => event.kind = .came).map Event.session

/-- The sessions of which something is remembered at a document. -/
def sessions (log : List Event) (kind : Event.Kind) (document : DocumentId) : List SessionId :=
  (log.filter fun event => event.kind = kind ∧ event.document = document).map Event.session

/-- Whether a session was asked to leave a document which it had joined before. -/
def Dismissed (log : List Event) (document : DocumentId) (session : SessionId) : Prop :=
  ∃ later earlier, log = later ++ ⟨.leaves, document, session⟩ :: earlier ∧
    ⟨.joined, document, session⟩ ∈ earlier

theorem mem_arrivals : session ∈ arrivals log ↔ ∃ document, ⟨.came, document, session⟩ ∈ log := by
  simp only [arrivals, List.mem_map, List.mem_filter, decide_eq_true_iff]
  constructor
  · rintro ⟨⟨kind, document, session⟩, ⟨mem, rfl⟩, rfl⟩
    exact ⟨document, mem⟩
  · rintro ⟨document, mem⟩
    exact ⟨_, ⟨mem, rfl⟩, rfl⟩

theorem mem_sessions : session ∈ sessions log kind document ↔ ⟨kind, document, session⟩ ∈ log := by
  simp only [sessions, List.mem_map, List.mem_filter, decide_eq_true_iff]
  constructor
  · rintro ⟨⟨kind, document, session⟩, ⟨mem, rfl, rfl⟩, rfl⟩
    exact mem
  · intro mem
    exact ⟨_, ⟨mem, rfl, rfl⟩, rfl⟩

theorem sessions_cons : sessions (event :: log) kind document =
    if event.kind = kind ∧ event.document = document then
      event.session :: sessions log kind document
    else sessions log kind document := by
  unfold sessions
  rw [List.filter_cons]
  simp only [decide_eq_true_iff]
  split
  · rfl
  · rfl

theorem dismissed_cons (dismissed : Dismissed (event :: log) document session) :
    Dismissed log document session ∨
      event = ⟨.leaves, document, session⟩ ∧ ⟨.joined, document, session⟩ ∈ log := by
  obtain ⟨later, earlier, whole, joined⟩ := dismissed
  cases later with
  | nil =>
      rw [List.nil_append, List.cons.injEq] at whole
      obtain ⟨rfl, rfl⟩ := whole
      exact .inr ⟨rfl, joined⟩
  | cons event' later =>
      rw [List.cons_append, List.cons.injEq] at whole
      exact .inl ⟨later, earlier, whole.2, joined⟩

theorem Dismissed.joined (dismissed : Dismissed log document session) :
    ⟨.joined, document, session⟩ ∈ log := by
  obtain ⟨later, earlier, rfl, joined⟩ := dismissed
  exact List.mem_append_right _ (List.mem_cons_of_mem _ joined)

/-- What is remembered happened in order: numbers are given one after the other, who joins
came before, and who has left had joined and was asked to leave, each of them once. -/
inductive Orderly : List Event → SessionId → Prop where
  | start (next : SessionId) : Orderly [] next
  | came {log : List Event} {next : SessionId} (orderly : Orderly log next)
      (document : DocumentId) : Orderly (⟨.came, document, next⟩ :: log) (next + 1)
  | joined {log : List Event} {next : SessionId} (orderly : Orderly log next)
      {document : DocumentId} {session : SessionId} (came : ⟨.came, document, session⟩ ∈ log)
      (once : ⟨.joined, document, session⟩ ∉ log) :
      Orderly (⟨.joined, document, session⟩ :: log) next
  | leaves {log : List Event} {next : SessionId} (orderly : Orderly log next)
      (document : DocumentId) (session : SessionId) :
      Orderly (⟨.leaves, document, session⟩ :: log) next
  | left {log : List Event} {next : SessionId} (orderly : Orderly log next)
      {document : DocumentId} {session : SessionId} (joined : ⟨.joined, document, session⟩ ∈ log)
      (leaves : ⟨.leaves, document, session⟩ ∈ log) (once : ⟨.left, document, session⟩ ∉ log) :
      Orderly (⟨.left, document, session⟩ :: log) next

namespace Orderly

theorem bounded (orderly : Orderly log next) (came : ⟨.came, document, session⟩ ∈ log) :
    session < next := by
  induction orderly with
  | start next => cases came
  | came orderly document' ih =>
      rcases List.mem_cons.mp came with same | before
      · cases same
        exact Nat.lt_succ_self _
      · exact Nat.lt_succ_of_lt (ih before)
  | joined orderly came' once ih => exact ih ((List.mem_cons.mp came).resolve_left (by simp))
  | leaves orderly document' session' ih =>
      exact ih ((List.mem_cons.mp came).resolve_left (by simp))
  | left orderly joined leaves once ih =>
      exact ih ((List.mem_cons.mp came).resolve_left (by simp))

/-- No number is given twice. -/
theorem arrivals_nodup (orderly : Orderly log next) : (arrivals log).Nodup := by
  induction orderly with
  | start next => exact .nil
  | came orderly document ih =>
      refine List.nodup_cons.mpr ⟨?_, ih⟩
      intro mem
      obtain ⟨document, came⟩ := mem_arrivals.mp mem
      exact Nat.lt_irrefl _ (orderly.bounded came)
  | joined orderly came once ih => exact ih
  | leaves orderly document session ih => exact ih
  | left orderly joined leaves once ih => exact ih

/-- Who has joined came, and who has left had joined and was asked to leave. -/
theorem causes (orderly : Orderly log next) (document : DocumentId) (session : SessionId) :
    (⟨.joined, document, session⟩ ∈ log → ⟨.came, document, session⟩ ∈ log) ∧
      (⟨.left, document, session⟩ ∈ log →
        ⟨.joined, document, session⟩ ∈ log ∧ ⟨.leaves, document, session⟩ ∈ log) := by
  induction orderly with
  | start next => simp
  | came orderly document' ih => grind
  | joined orderly came once ih => grind
  | leaves orderly document' session' ih => grind
  | left orderly joined leaves once ih => grind

/-- Nobody joins or leaves twice. -/
theorem sessions_nodup (orderly : Orderly log next) (document : DocumentId) :
    (sessions log .joined document).Nodup ∧ (sessions log .left document).Nodup := by
  induction orderly with
  | start next => exact ⟨.nil, .nil⟩
  | came orderly document' ih => exact ih
  | joined orderly came once ih =>
      refine ⟨?_, ih.2⟩
      rw [sessions_cons]
      split
      · next same =>
          cases same.2
          exact List.nodup_cons.mpr ⟨fun mem => once (mem_sessions.mp mem), ih.1⟩
      · exact ih.1
  | leaves orderly document' session' ih => exact ih
  | left orderly joined leaves once ih =>
      refine ⟨ih.1, ?_⟩
      rw [sessions_cons]
      split
      · next same =>
          cases same.2
          exact List.nodup_cons.mpr ⟨fun mem => once (mem_sessions.mp mem), ih.2⟩
      · exact ih.2

end Orderly

end Lobby

end Coedit
