import Coedit.Proofs.Roster.Lobby

/-!
# Seats

What a roster knows of a session at a document is found by one look at a room.  Joining,
leaving and announcing change what is found for that one session at that one document, and
whatever is done with outboxes changes nothing there; a broadcast is counted by the outboxes
that had room.
-/

namespace Coedit

namespace Table

variable {κ ν : Type} [DecidableEq κ] {table : Table κ ν} {key : κ}

theorem get?_of_isEmpty (vacant : table.isEmpty = true) : table.get? key = none := by
  cases found : table.get? key with
  | none => rfl
  | some value =>
      have member : table.contains key = true := by rw [contains, found, Option.isSome_some]
      rw [not_isEmpty_of_contains member] at vacant
      cases vacant

end Table

namespace Roster

variable {roster : Roster} {document other : DocumentId} {room room' : RoomId}
  {session session' sender : SessionId} {frame : Frame}

/-- What a session that sits at a document has last announced there, if anything. -/
def seat? (roster : Roster) (document : DocumentId) (session : SessionId) :
    Option (Option Bytes) :=
  match roster.room? document with
  | none => none
  | some room => (roster.roomAt room).seats.get? session

theorem seat?_of_room (found : roster.room? document = some room) :
    roster.seat? document session = (roster.roomAt room).seats.get? session := by
  simp only [seat?, found]

theorem seat?_of_none (absent : roster.room? document = none) :
    roster.seat? document session = none := by
  simp only [seat?, absent]

theorem mem_seats {presence : Option Bytes} :
    (session, presence) ∈ roster.seats document ↔
      roster.seat? document session = some presence := by
  cases found : roster.room? document with
  | none => simp [seats, seat?, found]
  | some room =>
      rw [seat?_of_room found, Table.get?_eq_some_iff]
      simp only [seats, found]

theorem mem_keys_seats :
    session ∈ (roster.seats document).map Prod.fst ↔
      (roster.seat? document session).isSome = true := by
  rw [Option.isSome_iff_exists, List.mem_map]
  constructor
  · rintro ⟨⟨session, presence⟩, member, rfl⟩
    exact ⟨presence, mem_seats.mp member⟩
  · rintro ⟨presence, found⟩
    exact ⟨(session, presence), mem_seats.mpr found, rfl⟩

variable (roster document) in
/-- Nobody has two seats at a document. -/
theorem nodup_seats : ((roster.seats document).map Prod.fst).Nodup := by
  unfold seats
  split
  · exact .nil
  · exact Table.nodup _

/-! ## Joining -/

/-- What is done in the room of a document is done for that document only. -/
theorem seat?_setRoom (sound : roster.Sound) (found : roster.room? document = some room)
    (content : Room) :
    (roster.setRoom room content).seat? other session =
      if document = other then content.seats.get? session else roster.seat? other session := by
  have same : (roster.setRoom room content).room? other = roster.room? other := rfl
  by_cases here : document = other
  · subst here
    rw [if_pos rfl, seat?_of_room (same.trans found), roomAt_setRoom, if_pos rfl]
  · rw [if_neg here]
    cases beside : roster.room? other with
    | none => rw [seat?_of_none (same.trans beside), seat?_of_none beside]
    | some room' =>
        have elsewhere : room ≠ room' := by
          rintro rfl
          exact here (sound.apart found beside)
        rw [seat?_of_room (same.trans beside), roomAt_setRoom, if_neg elsewhere,
          seat?_of_room beside]

theorem roomAt_enter (bound : room < roster.nextRoom) :
    (roster.enter document).2.roomAt room = roster.roomAt room := by
  cases found : roster.room? document with
  | some held =>
      rw [enter_of_room found]
      rfl
  | none =>
      rw [enter_of_none found]
      unfold roomAt
      dsimp only
      rw [Table.get?_insert, if_neg (Nat.ne_of_gt bound)]

/-- Who comes sits nowhere yet, and a room that is opened for him is empty. -/
theorem seat?_enter (sound : roster.Sound) :
    (roster.enter document).2.seat? other session = roster.seat? other session := by
  cases found : roster.room? document with
  | some room =>
      rw [enter_of_room found]
      rfl
  | none =>
      by_cases here : document = other
      · subst here
        have opened : (roster.enter document).2.room? document =
            some (roster.enter document).1.2 := room?_enter.trans (if_pos rfl)
        rw [seat?_of_none found, seat?_of_room opened, enter_of_none found]
        unfold roomAt
        dsimp only
        rw [Table.get?_insert_self]
        rfl
      · have same := (@room?_enter roster document other).trans (if_neg here)
        cases beside : roster.room? other with
        | none => rw [seat?_of_none (same.trans beside), seat?_of_none beside]
        | some room =>
            rw [seat?_of_room (same.trans beside), seat?_of_room beside,
              roomAt_enter (sound.bounded beside)]

theorem join_eq :
    roster.join document = ((roster.enter document).1.1,
      (roster.enter document).2.sit (roster.enter document).1.2 (roster.enter document).1.1) :=
  rfl

theorem Sound.join (sound : roster.Sound) : (roster.join document).2.Sound := by
  rw [join_eq]
  exact (sound.changed (.entered document)).changed (.sat _ _)

/-- Who joins a document sits there and has not announced anything. -/
theorem seat?_join (sound : roster.Sound) :
    (roster.join document).2.seat? other session =
      if document = other ∧ roster.nextSession = session then some none
      else roster.seat? other session := by
  have registered : (roster.enter document).2.room? document =
      some (roster.enter document).1.2 := room?_enter.trans (if_pos rfl)
  have entered : (roster.enter document).2.Sound := sound.changed (.entered document)
  rw [join_eq, sit, seat?_setRoom entered registered, seat?_enter sound, outboxes_enter.1]
  by_cases here : document = other
  · subst here
    rw [if_pos rfl, Table.get?_insert, ← seat?_of_room registered, seat?_enter sound]
    simp only [true_and]
  · rw [if_neg here, if_neg fun both => here both.1]

theorem join_beside :
    (roster.join document).1 = roster.nextSession ∧
      (roster.join document).2.nextSession = roster.nextSession + 1 ∧
      (roster.join document).2.outboxes = roster.outboxes.insert roster.nextSession .empty :=
  ⟨outboxes_enter.1, nextSession_enter, outboxes_enter.2⟩

/-! ## Leaving -/

/-- Only an empty room is taken off the register. -/
theorem seat?_sweep {visitors : Nat} :
    (roster.sweep document room visitors).seat? other session = roster.seat? other session := by
  have rooms : (roster.sweep document room visitors).rooms = roster.rooms := by
    unfold sweep
    split
    · rfl
    · rfl
  rcases room?_sweep roster document other room visitors with
    same | ⟨rfl, -, vacant, found, gone⟩
  · unfold seat? roomAt
    rw [same, rooms]
  · rw [seat?_of_none gone, seat?_of_room found]
    exact (Table.get?_of_isEmpty vacant).symm

/-- Who leaves a document does not sit there any more. -/
theorem seat?_leave (sound : roster.Sound) :
    (roster.leave document session).2.seat? other session' =
      if document = other ∧ session = session' then none else roster.seat? other session' := by
  rw [leave_eq]
  cases found : roster.room? document with
  | none =>
      dsimp only
      split
      · next here =>
          obtain ⟨rfl, -⟩ := here
          exact seat?_of_none found
      · rfl
  | some room =>
      have risen : (roster.rise room session).2.seat? other session' =
          if document = other ∧ session = session' then none
          else roster.seat? other session' := by
        rw [rise, seat?_setRoom sound found]
        by_cases here : document = other
        · subst here
          rw [if_pos rfl, Table.get?_erase, ← seat?_of_room found]
          simp only [true_and]
        · rw [if_neg here, if_neg fun both => here both.1]
      rw [← risen]
      dsimp only [part]
      split
      · exact seat?_sweep
      · rfl

theorem Sound.leave (sound : roster.Sound) : (roster.leave document session).2.Sound := by
  rw [leave_eq]
  cases roster.room? document with
  | none => exact sound
  | some room => exact sound.changed (.parted document room session 2)

theorem leave_beside :
    (roster.leave document session).2.nextSession = roster.nextSession ∧
      (roster.leave document session).2.outboxes = roster.outboxes := by
  rw [leave_eq]
  cases roster.room? document with
  | none => exact ⟨rfl, rfl⟩
  | some room =>
      refine ⟨?_, outboxes_part⟩
      simp only [part, sweep]
      split
      · split
        · rfl
        · rfl
      · rfl

/-! ## Announcing -/

/-- What is announced at a document is remembered for who sits there. -/
theorem seat?_setAwareness (sound : roster.Sound) {payload : Bytes} :
    (roster.setAwareness document session payload).seat? other session' =
      if document = other ∧ session = session' then
        (roster.seat? other session').map fun _ => some payload
      else roster.seat? other session' := by
  cases found : roster.room? document with
  | none =>
      have same : roster.setAwareness document session payload = roster := by
        simp only [setAwareness, found]
      rw [same]
      split
      · next here =>
          obtain ⟨rfl, -⟩ := here
          rw [seat?_of_none found, Option.map_none]
      · rfl
  | some room =>
      simp only [setAwareness, found]
      split
      · next present =>
          rw [seat?_setRoom sound found]
          by_cases here : document = other
          · subst here
            rw [if_pos rfl, Table.get?_insert, seat?_of_room found]
            simp only [true_and]
            split
            · next same =>
                subst same
                obtain ⟨presence, has⟩ := Option.isSome_iff_exists.mp present
                rw [has, Option.map_some]
            · rfl
          · rw [if_neg here, if_neg fun both => here both.1]
      · next absent =>
          split
          · next here =>
              obtain ⟨rfl, rfl⟩ := here
              rw [Table.contains, Option.not_isSome_iff_eq_none] at absent
              rw [seat?_of_room found, absent, Option.map_none]
          · rfl

theorem Sound.setAwareness (sound : roster.Sound) {payload : Bytes} :
    (roster.setAwareness document session payload).Sound :=
  sound.changed (.announced document session payload)

theorem nextSession_setAwareness {payload : Bytes} :
    (roster.setAwareness document session payload).nextSession = roster.nextSession := by
  unfold setAwareness
  split
  · rfl
  · dsimp only
    split
    · rfl
    · rfl

/-! ## Broadcasting -/

/-- A broadcast changes nothing but outboxes. -/
theorem broadcast_beside :
    (roster.broadcast document sender frame).2 =
      { roster with outboxes := (roster.broadcast document sender frame).2.outboxes } := by
  rw [broadcast_eq]
  cases roster.room? document with
  | none => rfl
  | some room =>
      obtain ⟨rooms, register, nextRoom, nextSession⟩ :=
        @pass_beside roster room sender frame
      dsimp only
      rw [← rooms, ← register, ← nextRoom, ← nextSession]

/-- Each session that sits at the document, but the sender, is offered the frame once. -/
theorem outboxes_broadcast :
    (roster.broadcast document sender frame).2.outboxes.get? session =
      if (roster.seat? document session).isSome = true ∧ session ≠ sender then
        (roster.outboxes.get? session).map fun outbox => outbox.offer frame
      else roster.outboxes.get? session := by
  rw [broadcast_eq]
  cases found : roster.room? document with
  | none =>
      rw [seat?_of_none found]
      rfl
  | some room =>
      rw [seat?_of_room found]
      exact outbox_pass

/-- As often as an outbox takes the frame it is counted. -/
theorem fold_send_count {seats : List (SessionId × Option Bytes)}
    (nodup : (seats.map Prod.fst).Nodup) (reached : Nat) :
    (seats.foldl
      (fun (reached, roster) seat =>
        let (queued, after) := send roster seat.1 frame
        (if queued then reached + 1 else reached, after))
      (reached, roster)).1 =
      reached + seats.countP fun seat => (roster.outboxes.get? seat.1).any Outbox.accepts := by
  induction seats generalizing roster reached with
  | nil => rfl
  | cons seat rest ih =>
      rw [List.map_cons, List.nodup_cons] at nodup
      obtain ⟨fresh, nodup⟩ := nodup
      -- The frame for this session fills no outbox of the others.
      have others : (rest.countP fun seat' =>
          ((roster.modifyOutbox seat.1 fun outbox => outbox.offer frame).outboxes.get?
            seat'.1).any Outbox.accepts) =
          rest.countP fun seat' => (roster.outboxes.get? seat'.1).any Outbox.accepts := by
        refine List.countP_congr fun seat' member => ?_
        have apart : seat.1 ≠ seat'.1 := by
          intro same
          exact fresh (same ▸ List.mem_map_of_mem member)
        rw [modifyOutbox, Table.get?_modify, if_neg apart]
      rw [List.foldl_cons, List.countP_cons]
      refine (ih nodup _).trans ?_
      rw [others]
      split
      · omega
      · rfl

/-- A broadcast returns how many outboxes took the frame. -/
theorem broadcast_count :
    (roster.broadcast document sender frame).1 =
      ((roster.seats document).filter fun seat => seat.1 ≠ sender).countP
        fun seat => (roster.outboxes.get? seat.1).any Outbox.accepts := by
  have nodup : (((roster.seats document).filter fun seat => seat.1 ≠ sender).map
      Prod.fst).Nodup := Table.nodup_keys_filter (nodup_seats roster document)
  exact (fold_send_count nodup 0).trans (Nat.zero_add _)

end Roster

end Coedit
