import Coedit.Roster

/-!
# Rooms

Who joins, leaves or passes a frame on first looks up the room of the document, and does
what he has to do in that room later.  Each such step keeps the rooms of documents apart,
and somebody who sits at a document stays there until he gets up himself.
-/

namespace Coedit

namespace Table

variable {κ ν : Type} [DecidableEq κ] {table : Table κ ν} {key other : κ}

theorem contains_insert {value : ν} :
    (table.insert key value).contains other = true ↔ key = other ∨ table.contains other = true := by
  unfold contains
  rw [get?_insert]
  split
  · next same => simp [same]
  · next apart => simp [apart]

theorem contains_erase :
    (table.erase key).contains other = true ↔ key ≠ other ∧ table.contains other = true := by
  unfold contains
  rw [get?_erase]
  split
  · next same => simp [same]
  · next apart => simp [apart]

theorem mem_keys_iff : other ∈ table.entries.map Prod.fst ↔ table.contains other = true := by
  unfold contains
  rw [Option.isSome_iff_exists, List.mem_map]
  constructor
  · rintro ⟨⟨key, value⟩, member, rfl⟩
    exact ⟨value, get?_eq_some_iff.mpr member⟩
  · rintro ⟨value, found⟩
    exact ⟨(other, value), get?_eq_some_iff.mp found, rfl⟩

theorem not_isEmpty_of_contains (member : table.contains key = true) : table.isEmpty = false := by
  rw [← mem_keys_iff] at member
  unfold isEmpty
  cases entries : table.entries with
  | nil =>
      rw [entries] at member
      cases member
  | cons entry rest => rfl

end Table

namespace Roster

variable {roster : Roster} {document other : DocumentId} {room room' : RoomId}
  {session session' sender : SessionId} {frame : Frame}

/-! ## What is done in a room -/

/-- Offer a frame to every session in a room but one; how many outboxes took it? -/
def pass (roster : Roster) (room : RoomId) (sender : SessionId) (frame : Frame) :
    Nat × Roster :=
  ((roster.roomAt room).seats.entries.filter fun seat => seat.1 ≠ sender).foldl
    (fun (reached, roster) seat =>
      let (queued, after) := roster.send seat.1 frame
      (if queued then reached + 1 else reached, after))
    (0, roster)

/-- A session gets up from a room.  The last one takes the room off the register if
nobody else has to do with it. -/
def part (roster : Roster) (document : DocumentId) (room : RoomId) (session : SessionId)
    (visitors : Nat) : Nat × Roster :=
  let (left, risen) := roster.rise room session
  (left, if left = 0 then risen.sweep document room visitors else risen)

/-- To broadcast is to look the room up and to pass the frame on in it. -/
theorem broadcast_eq :
    roster.broadcast document sender frame =
      match roster.room? document with
      | none => (0, roster)
      | some room => roster.pass room sender frame := by
  unfold broadcast seats
  cases roster.room? document with
  | none => rfl
  | some room => rfl

/-- To leave is to look the room up and to get up from it. -/
theorem leave_eq :
    roster.leave document session =
      match roster.room? document with
      | none => (0, roster)
      | some room => roster.part document room session 2 := rfl

/-! ## Who sits where -/

/-- Whether a session sits in a room. -/
def Sits (roster : Roster) (room : RoomId) (session : SessionId) : Prop :=
  (roster.roomAt room).seats.contains session = true

instance (roster : Roster) (room : RoomId) (session : SessionId) :
    Decidable (roster.Sits room session) :=
  inferInstanceAs (Decidable (_ = true))

/-- Whether a session can be reached through the room of a document. -/
def Seated (roster : Roster) (document : DocumentId) (session : SessionId) : Prop :=
  ∃ room, roster.room? document = some room ∧ roster.Sits room session ∧
    (roster.outboxes.get? session).isSome

/-- Every document has a room of its own, and new rooms are new. -/
structure Sound (roster : Roster) : Prop where
  bounded {document : DocumentId} {room : RoomId} (found : roster.room? document = some room) :
    room < roster.nextRoom
  apart {document other : DocumentId} {room : RoomId} (found : roster.room? document = some room)
    (beside : roster.room? other = some room) : document = other

theorem sound_empty : empty.Sound := by
  constructor
  · rintro _ _ ⟨⟩
  · rintro _ _ _ ⟨⟩

/-! ### Single steps -/

theorem roomAt_setRoom {content : Room} :
    (roster.setRoom room content).roomAt room' =
      if room = room' then content else roster.roomAt room' := by
  unfold setRoom roomAt
  rw [Table.get?_insert]
  split
  · rfl
  · rfl

/-- Who comes to a document that has a room is shown into it. -/
theorem enter_of_room (found : roster.room? document = some room) :
    roster.enter document = ((roster.nextSession, room),
      { roster with
        nextSession := roster.nextSession + 1
        outboxes := roster.outboxes.insert roster.nextSession .empty }) := by
  unfold room? at found
  simp only [enter, room?, found]

/-- For who comes first a room is opened. -/
theorem enter_of_none (absent : roster.room? document = none) :
    roster.enter document = ((roster.nextSession, roster.nextRoom),
      { roster with
        nextSession := roster.nextSession + 1
        outboxes := roster.outboxes.insert roster.nextSession .empty
        rooms := roster.rooms.insert roster.nextRoom .empty
        register := roster.register.insert document roster.nextRoom
        nextRoom := roster.nextRoom + 1 }) := by
  unfold room? at absent
  simp only [enter, room?, absent]

theorem room?_enter :
    (roster.enter document).2.room? other =
      if document = other then some (roster.enter document).1.2 else roster.room? other := by
  cases found : roster.room? document with
  | some room =>
      rw [enter_of_room found]
      split
      · next same => exact same ▸ found
      · rfl
  | none =>
      rw [enter_of_none found]
      exact Table.get?_insert ..

theorem sits_enter (bound : room < roster.nextRoom) :
    (roster.enter document).2.Sits room session ↔ roster.Sits room session := by
  cases found : roster.room? document with
  | some held =>
      rw [enter_of_room found]
      exact Iff.rfl
  | none =>
      rw [enter_of_none found]
      unfold Sits roomAt
      dsimp only
      rw [Table.get?_insert, if_neg (Nat.ne_of_gt bound)]

theorem outboxes_enter :
    (roster.enter document).1.1 = roster.nextSession ∧
      (roster.enter document).2.outboxes =
        roster.outboxes.insert roster.nextSession .empty := by
  cases found : roster.room? document with
  | some held =>
      rw [enter_of_room found]
      exact ⟨rfl, rfl⟩
  | none =>
      rw [enter_of_none found]
      exact ⟨rfl, rfl⟩

theorem sits_sit :
    (roster.sit room session).Sits room' session' ↔
      room = room' ∧ session = session' ∨ roster.Sits room' session' := by
  unfold Sits sit
  rw [roomAt_setRoom]
  split
  · next same =>
      subst same
      rw [Table.contains_insert]
      simp
  · next apart => simp [apart]

theorem sits_rise :
    (roster.rise room session).2.Sits room' session' ↔
      ¬ (room = room' ∧ session = session') ∧ roster.Sits room' session' := by
  unfold Sits rise
  rw [roomAt_setRoom]
  split
  · next same =>
      subst same
      rw [Table.contains_erase]
      simp
  · next apart => simp [apart]

theorem sits_sweep {visitors : Nat} :
    (roster.sweep document room visitors).Sits room' session' ↔ roster.Sits room' session' := by
  unfold sweep
  split
  · exact Iff.rfl
  · exact Iff.rfl

variable (roster document other room) in
theorem room?_sweep (visitors : Nat) :
    (roster.sweep document room visitors).room? other = roster.room? other ∨
      document = other ∧ visitors ≤ 2 ∧ (roster.roomAt room).seats.isEmpty = true ∧
        roster.room? document = some room ∧
        (roster.sweep document room visitors).room? other = none := by
  unfold sweep
  split
  · next swept =>
      obtain ⟨few, vacant, found⟩ := swept
      by_cases same : document = other
      · refine .inr ⟨same, few, vacant, found, ?_⟩
        exact (Table.get?_erase ..).trans (if_pos same)
      · exact .inl ((Table.get?_erase ..).trans (if_neg same))
  · exact .inl rfl

theorem sits_setAwareness {payload : Bytes} :
    (roster.setAwareness document session payload).Sits room' session' ↔
      roster.Sits room' session' := by
  unfold setAwareness
  split
  · exact Iff.rfl
  · next room found =>
      dsimp only
      split
      · next present =>
          unfold Sits
          rw [roomAt_setRoom]
          split
          · next same =>
              subst same
              rw [Table.contains_insert]
              constructor
              · rintro (rfl | member)
                · exact present
                · exact member
              · exact .inr
          · exact Iff.rfl
      · exact Iff.rfl

theorem register_setAwareness {payload : Bytes} :
    (roster.setAwareness document session payload).register = roster.register ∧
      (roster.setAwareness document session payload).nextRoom = roster.nextRoom ∧
      (roster.setAwareness document session payload).outboxes = roster.outboxes := by
  unfold setAwareness
  split
  · exact ⟨rfl, rfl, rfl⟩
  · dsimp only
    split
    · exact ⟨rfl, rfl, rfl⟩
    · exact ⟨rfl, rfl, rfl⟩

/-! ### Passing a frame on -/

/-- Passing a frame on changes nothing but outboxes, and offers it to each of those it is
meant for once. -/
theorem fold_send {seats : List (SessionId × Option Bytes)} (nodup : (seats.map Prod.fst).Nodup)
    (reached : Nat) :
    let after := (seats.foldl
      (fun (reached, roster) seat =>
        let (queued, after) := send roster seat.1 frame
        (if queued then reached + 1 else reached, after))
      (reached, roster)).2
    (after.rooms = roster.rooms ∧ after.register = roster.register ∧
        after.nextRoom = roster.nextRoom ∧ after.nextSession = roster.nextSession) ∧
      ∀ session, after.outboxes.get? session =
        if session ∈ seats.map Prod.fst then
          (roster.outboxes.get? session).map fun outbox => outbox.offer frame
        else roster.outboxes.get? session := by
  induction seats generalizing roster reached with
  | nil => exact ⟨⟨rfl, rfl, rfl, rfl⟩, fun session => rfl⟩
  | cons seat rest ih =>
      rw [List.map_cons, List.nodup_cons] at nodup
      obtain ⟨fresh, nodup⟩ := nodup
      obtain ⟨⟨rooms, register, nextRoom, nextSession⟩, outboxes⟩ :=
        @ih (roster.modifyOutbox seat.1 fun outbox => outbox.offer frame) nodup
          (if (roster.outboxes.get? seat.1).any Outbox.accepts then reached + 1 else reached)
      refine ⟨⟨rooms, register, nextRoom, nextSession⟩, ?_⟩
      intro session
      refine (outboxes session).trans ?_
      unfold modifyOutbox
      simp only [Table.get?_modify, List.map_cons, List.mem_cons]
      by_cases first : seat.1 = session
      · subst first
        rw [if_neg fresh, if_pos rfl, if_pos (.inl rfl)]
      · rw [if_neg first]
        simp only [Ne.symm first, false_or]

theorem pass_beside :
    (roster.pass room sender frame).2.rooms = roster.rooms ∧
      (roster.pass room sender frame).2.register = roster.register ∧
      (roster.pass room sender frame).2.nextRoom = roster.nextRoom ∧
      (roster.pass room sender frame).2.nextSession = roster.nextSession :=
  (fold_send (Table.nodup_keys_filter (roster.roomAt room).seats.nodup) 0).1

/-- Everybody in the room but the sender is offered the frame once, and nobody else. -/
theorem outbox_pass :
    (roster.pass room sender frame).2.outboxes.get? session =
      if roster.Sits room session ∧ session ≠ sender then
        (roster.outboxes.get? session).map fun outbox => outbox.offer frame
      else roster.outboxes.get? session := by
  refine ((fold_send (Table.nodup_keys_filter (roster.roomAt room).seats.nodup) 0).2
    session).trans ?_
  have meant : session ∈ (((roster.roomAt room).seats.entries.filter
      fun seat => seat.1 ≠ sender).map Prod.fst) ↔ roster.Sits room session ∧ session ≠ sender := by
    unfold Sits
    rw [← Table.mem_keys_iff]
    simp only [List.mem_map, List.mem_filter]
    constructor
    · rintro ⟨seat, ⟨member, apart⟩, rfl⟩
      exact ⟨⟨seat, member, rfl⟩, by simpa using apart⟩
    · rintro ⟨⟨seat, member, rfl⟩, apart⟩
      exact ⟨seat, ⟨member, by simpa using apart⟩, rfl⟩
  simp only [meant]

/-! ## Changes -/

/-- What can happen to a roster in one step. -/
inductive Change where
  | entered (document : DocumentId)
  | sat (room : RoomId) (session : SessionId)
  | parted (document : DocumentId) (room : RoomId) (session : SessionId) (visitors : Nat)
  | passed (room : RoomId) (sender : SessionId) (frame : Frame)
  | announced (document : DocumentId) (session : SessionId) (payload : Bytes)
  | outbox (session : SessionId) (change : Outbox → Outbox)

/-- The roster after a change. -/
def changed (roster : Roster) : Change → Roster
  | .entered document => (roster.enter document).2
  | .sat room session => roster.sit room session
  | .parted document room session visitors => (roster.part document room session visitors).2
  | .passed room sender frame => (roster.pass room sender frame).2
  | .announced document session payload => roster.setAwareness document session payload
  | .outbox session change => roster.modifyOutbox session change

variable (roster) in
theorem register_of_changed {change : Change}
    (quiet : ∀ document, change ≠ .entered document)
    (stays : ∀ document room session visitors, change ≠ .parted document room session visitors) :
    (roster.changed change).register = roster.register ∧
      (roster.changed change).nextRoom = roster.nextRoom := by
  cases change with
  | entered document => exact absurd rfl (quiet document)
  | sat room session => exact ⟨rfl, rfl⟩
  | parted document room session visitors => exact absurd rfl (stays document room session visitors)
  | passed room sender frame => exact ⟨pass_beside.2.1, pass_beside.2.2.1⟩
  | announced document session payload =>
      exact ⟨register_setAwareness.1, register_setAwareness.2.1⟩
  | outbox session change => exact ⟨rfl, rfl⟩

theorem nextRoom_part {visitors : Nat} :
    (roster.part document room session visitors).2.nextRoom = roster.nextRoom := by
  simp only [part, sweep]
  split
  · split
    · rfl
    · rfl
  · rfl

variable (roster document other room session) in
/-- A document loses its room only to the last one who leaves it, and only if nobody else
is about. -/
theorem room?_part (visitors : Nat) :
    (roster.part document room session visitors).2.room? other = roster.room? other ∨
      document = other ∧ visitors ≤ 2 ∧
        (∀ session', ¬ (roster.rise room session).2.Sits room session') ∧
        roster.room? document = some room ∧
        (roster.part document room session visitors).2.room? other = none := by
  unfold part
  dsimp only
  split
  · rcases room?_sweep (roster.rise room session).2 document other room visitors with
      same | ⟨same, few, vacant, found, gone⟩
    · exact .inl same
    · refine .inr ⟨same, few, ?_, found, gone⟩
      intro session' sits
      rw [Table.not_isEmpty_of_contains sits] at vacant
      cases vacant
  · exact .inl rfl

theorem sits_part {visitors : Nat} :
    (roster.part document room session visitors).2.Sits room' session' ↔
      ¬ (room = room' ∧ session = session') ∧ roster.Sits room' session' := by
  unfold part
  dsimp only
  split
  · rw [sits_sweep, sits_rise]
  · rw [sits_rise]

theorem outboxes_part {visitors : Nat} :
    (roster.part document room session visitors).2.outboxes = roster.outboxes := by
  simp only [part, sweep]
  split
  · split
    · rfl
    · rfl
  · rfl

/-- Whoever has found the room of a document finds it there until it is given up. -/
theorem room?_changed {change : Change} (found : roster.room? document = some room)
    (kept : ∀ session visitors, change = .parted document room session visitors → 2 < visitors) :
    (roster.changed change).room? document = some room := by
  by_cases enters : ∃ entered, change = .entered entered
  · obtain ⟨entered, rfl⟩ := enters
    refine room?_enter.trans ?_
    split
    · next same =>
        subst same
        rw [enter_of_room found]
    · exact found
  · by_cases parts : ∃ document' room' session visitors,
        change = .parted document' room' session visitors
    · obtain ⟨document', room', session, visitors, rfl⟩ := parts
      rcases room?_part roster document' document room' session visitors with
        same | ⟨rfl, few, -, registered, -⟩
      · exact same.trans found
      · rw [found] at registered
        cases registered
        exact absurd (kept session visitors rfl) (Nat.not_lt.mpr few)
    · have same := (register_of_changed roster
        (fun document equal => enters ⟨document, equal⟩)
        (fun document room session visitors equal =>
          parts ⟨document, room, session, visitors, equal⟩)).1
      rw [room?, same]
      exact found

/-- A room of a document after a change is the one before, unless a new one was opened. -/
theorem room?_of_changed {change : Change} (found : (roster.changed change).room? document = some room) :
    roster.room? document = some room ∨
      room = roster.nextRoom ∧ change = .entered document ∧
        (roster.changed change).nextRoom = roster.nextRoom + 1 := by
  by_cases enters : ∃ entered, change = .entered entered
  · obtain ⟨entered, rfl⟩ := enters
    replace found := room?_enter.symm.trans found
    split at found
    · next same =>
        subst same
        cases before : roster.room? entered with
        | some held =>
            rw [enter_of_room before] at found
            exact .inl found
        | none =>
            refine .inr ⟨?_, rfl, ?_⟩
            · rw [enter_of_none before] at found
              exact (Option.some.inj found).symm
            · rw [changed, enter_of_none before]
    · exact .inl found
  · by_cases parts : ∃ document' room' session visitors,
        change = .parted document' room' session visitors
    · obtain ⟨document', room', session, visitors, rfl⟩ := parts
      rcases room?_part roster document' document room' session visitors with
        same | ⟨-, -, -, -, gone⟩
      · exact .inl (same.symm.trans found)
      · have absurdity := gone.symm.trans found
        cases absurdity
    · have same := (register_of_changed roster
        (fun document equal => enters ⟨document, equal⟩)
        (fun document room session visitors equal =>
          parts ⟨document, room, session, visitors, equal⟩)).1
      rw [room?, same] at found
      exact .inl found

theorem nextRoom_changed (change : Change) : roster.nextRoom ≤ (roster.changed change).nextRoom := by
  cases change with
  | entered document =>
      cases found : roster.room? document with
      | some room => exact Nat.le_of_eq (by rw [changed, enter_of_room found])
      | none =>
          rw [changed, enter_of_none found]
          exact Nat.le_succ _
  | parted document room session visitors => exact Nat.le_of_eq nextRoom_part.symm
  | sat room session => exact Nat.le_refl _
  | passed room sender frame => exact Nat.le_of_eq pass_beside.2.2.1.symm
  | announced document session payload => exact Nat.le_of_eq register_setAwareness.2.1.symm
  | outbox session change => exact Nat.le_refl _

/-- Every change keeps the rooms of documents apart. -/
theorem Sound.changed (sound : roster.Sound) (change : Change) : (roster.changed change).Sound := by
  constructor
  · intro document room found
    rcases room?_of_changed found with before | ⟨rfl, -, next⟩
    · exact Nat.lt_of_lt_of_le (sound.bounded before) (nextRoom_changed change)
    · rw [next]
      exact Nat.lt_succ_self _
  · intro document other room found beside
    rcases room?_of_changed found with before | ⟨rfl, entered, -⟩
    · rcases room?_of_changed beside with before' | ⟨rfl, -, -⟩
      · exact sound.apart before before'
      · exact absurd (sound.bounded before) (Nat.lt_irrefl _)
    · rcases room?_of_changed beside with before' | ⟨-, entered', -⟩
      · exact absurd (sound.bounded before') (Nat.lt_irrefl _)
      · rw [entered] at entered'
        cases entered'
        rfl

theorem outbox_changed (change : Change) (reached : (roster.outboxes.get? session).isSome) :
    ((roster.changed change).outboxes.get? session).isSome := by
  cases change with
  | entered document =>
      rw [changed, outboxes_enter.2, Table.get?_insert]
      split
      · rfl
      · exact reached
  | sat room session => exact reached
  | parted document room session visitors =>
      rw [changed, outboxes_part]
      exact reached
  | passed room sender frame =>
      rw [changed, outbox_pass]
      split
      · rw [Option.isSome_map]
        exact reached
      · exact reached
  | announced document session payload =>
      rw [changed, register_setAwareness.2.2]
      exact reached
  | outbox other change =>
      simp only [changed, modifyOutbox, Table.get?_modify]
      split
      · rw [Option.isSome_map]
        exact reached
      · exact reached

/-- Who sits in a room stays there unless he gets up. -/
theorem sits_changed {change : Change} (sits : roster.Sits room session)
    (bound : room < roster.nextRoom)
    (stays : ∀ document visitors, change ≠ .parted document room session visitors) :
    (roster.changed change).Sits room session := by
  cases change with
  | entered document => exact (sits_enter bound).mpr sits
  | sat room' session' => exact sits_sit.mpr (.inr sits)
  | parted document room' session' visitors =>
      refine sits_part.mpr ⟨?_, sits⟩
      rintro ⟨rfl, rfl⟩
      exact stays document visitors rfl
  | passed room' sender frame =>
      unfold Sits roomAt changed
      rw [pass_beside.1]
      exact sits
  | announced document session' payload => exact sits_setAwareness.mpr sits
  | outbox session' change => exact sits

/-- Who is seated at a document stays seated until he leaves it: nobody else can close
its room. -/
theorem Seated.changed {change : Change} (seated : roster.Seated document session)
    (sound : roster.Sound)
    (found : ∀ document' room session' visitors,
      change = .parted document' room session' visitors → roster.room? document' = some room)
    (stays : ∀ room visitors, change ≠ .parted document room session visitors) :
    (roster.changed change).Seated document session := by
  obtain ⟨room, here, sits, reached⟩ := seated
  have remains : (roster.changed change).Sits room session := by
    refine sits_changed sits (sound.bounded here) ?_
    rintro document' visitors rfl
    cases sound.apart here (found _ _ _ _ rfl)
    exact stays room visitors rfl
  refine ⟨room, ?_, remains, outbox_changed change reached⟩
  by_cases parts : ∃ session' visitors, change = .parted document room session' visitors
  · obtain ⟨session', visitors, rfl⟩ := parts
    rcases room?_part roster document document room session' visitors with
      same | ⟨-, -, vacant, -, -⟩
    · exact same.trans here
    · exact absurd (sits_rise.mpr (sits_part.mp remains)) (vacant session)
  · exact room?_changed here fun session' visitors equal => absurd ⟨session', visitors, equal⟩ parts

end Roster

end Coedit
