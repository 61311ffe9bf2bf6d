import Coedit.Proofs.Roster.Lobby

/-!
# Who is present

Nobody is left behind in a lobby.  A room that somebody holds stays on the register, so who
was shown into it sits where he can be found; and what is remembered of joining and leaving
tells who sits where, step by step and after any run.
-/

namespace Coedit

namespace Lobby

variable {lobby : Lobby} {roster : Roster} {document other : DocumentId} {room : RoomId}
  {session session' : SessionId} {log log' : List Event}

/-! ## Who sits where -/

/-- Whoever has joined a document and has not left sits in the room of the document, and
nobody else sits anywhere. -/
structure Agrees (roster : Roster) (log : List Event) : Prop where
  present {document : DocumentId} {session : SessionId}
    (joined : ⟨.joined, document, session⟩ ∈ log) (stays : ⟨.left, document, session⟩ ∉ log) :
    ∃ room, roster.room? document = some room ∧ roster.Sits room session
  seated {room : RoomId} {session : SessionId} (sits : roster.Sits room session) :
    ∃ document, roster.room? document = some room ∧
      ⟨.joined, document, session⟩ ∈ log ∧ ⟨.left, document, session⟩ ∉ log

namespace Agrees

/-- A change that moves nobody and no room. -/
theorem of_same {after : Roster} (agrees : Agrees roster log)
    (rooms : ∀ document, after.room? document = roster.room? document)
    (sits : ∀ room session, after.Sits room session ↔ roster.Sits room session)
    (joined : ∀ document session,
      ⟨.joined, document, session⟩ ∈ log' ↔ ⟨.joined, document, session⟩ ∈ log)
    (left : ∀ document session,
      ⟨.left, document, session⟩ ∈ log' ↔ ⟨.left, document, session⟩ ∈ log) :
    Agrees after log' := by
  constructor
  · intro document session here stays
    rw [joined] at here
    rw [left] at stays
    obtain ⟨room, found, sitting⟩ := agrees.present here stays
    exact ⟨room, (rooms document).trans found, (sits room session).mpr sitting⟩
  · intro room session sitting
    obtain ⟨document, found, here, stays⟩ := agrees.seated ((sits room session).mp sitting)
    refine ⟨document, (rooms document).trans found, ?_, ?_⟩
    · rwa [joined]
    · rwa [left]

theorem enter (agrees : Agrees roster log) (sound : roster.Sound) (document : DocumentId)
    (came : SessionId) : Agrees (roster.enter document).2 (⟨.came, document, came⟩ :: log) := by
  have keeps {other : DocumentId} {room : RoomId} (found : roster.room? other = some room) :
      (roster.enter document).2.room? other = some room :=
    show (roster.changed (.entered document)).room? other = some room from
      Roster.room?_changed found fun _ _ equal => by cases equal
  constructor
  · intro other session joined stays
    obtain ⟨room, found, sits⟩ := agrees.present
      ((List.mem_cons.mp joined).resolve_left (by simp))
      (fun left => stays (List.mem_cons_of_mem _ left))
    exact ⟨room, keeps found, (Roster.sits_enter (sound.bounded found)).mpr sits⟩
  · intro room session sits
    obtain ⟨other, found, joined, stays⟩ := agrees.seated (Roster.sits_of_enter sits)
    refine ⟨other, keeps found, List.mem_cons_of_mem _ joined, ?_⟩
    intro left
    exact stays ((List.mem_cons.mp left).resolve_left (by simp))

theorem sit (agrees : Agrees roster log) (found : roster.room? document = some room)
    (fresh : ⟨.left, document, session⟩ ∉ log) :
    Agrees (roster.sit room session) (⟨.joined, document, session⟩ :: log) := by
  constructor
  · intro other session' joined stays
    rcases List.mem_cons.mp joined with same | before
    · cases same
      exact ⟨room, found, Roster.sits_sit.mpr (.inl ⟨rfl, rfl⟩)⟩
    · obtain ⟨room', found', sits⟩ := agrees.present before
        (fun left => stays (List.mem_cons_of_mem _ left))
      exact ⟨room', found', Roster.sits_sit.mpr (.inr sits)⟩
  · intro room' session' sits
    have old {other : DocumentId} {number : SessionId} (stays : ⟨.left, other, number⟩ ∉ log) :
        ⟨.left, other, number⟩ ∉ (⟨.joined, document, session⟩ :: log : List Event) :=
      fun left => stays ((List.mem_cons.mp left).resolve_left (by simp))
    rcases Roster.sits_sit.mp sits with ⟨rfl, rfl⟩ | before
    · exact ⟨document, found, List.mem_cons_self, old fresh⟩
    · obtain ⟨other, found', joined, stays⟩ := agrees.seated before
      exact ⟨other, found', List.mem_cons_of_mem _ joined, old stays⟩

/-- Who gets up has left, if he was there. -/
theorem rise (agrees : Agrees roster log) (sound : roster.Sound)
    (found : roster.room? document = some room) :
    Agrees (roster.rise room session).2
      (if roster.Sits room session then ⟨.left, document, session⟩ :: log else log) := by
  constructor
  · intro other session' joined stays
    have before : ⟨.joined, other, session'⟩ ∈ log ∧ ⟨.left, other, session'⟩ ∉ log := by
      split at joined
      · next sitting =>
          rw [if_pos sitting] at stays
          exact ⟨(List.mem_cons.mp joined).resolve_left (by simp),
            fun left => stays (List.mem_cons_of_mem _ left)⟩
      · next absent =>
          rw [if_neg absent] at stays
          exact ⟨joined, stays⟩
    obtain ⟨room', found', sits⟩ := agrees.present before.1 before.2
    refine ⟨room', found', Roster.sits_rise.mpr ⟨?_, sits⟩⟩
    rintro ⟨rfl, rfl⟩
    cases sound.apart found found'
    rw [if_pos sits] at stays
    exact stays List.mem_cons_self
  · intro room' session' sits
    obtain ⟨others, before⟩ := Roster.sits_rise.mp sits
    obtain ⟨other, found', joined, stays⟩ := agrees.seated before
    split
    · refine ⟨other, found', List.mem_cons_of_mem _ joined, ?_⟩
      intro left
      rcases List.mem_cons.mp left with same | left
      · cases same
        rw [found] at found'
        cases found'
        exact others ⟨rfl, rfl⟩
      · exact stays left
    · exact ⟨other, found', joined, stays⟩

theorem leaves (agrees : Agrees roster log) (document : DocumentId) (session : SessionId) :
    Agrees roster (⟨.leaves, document, session⟩ :: log) :=
  agrees.of_same (fun _ => rfl) (fun _ _ => Iff.rfl) (by simp) (by simp)

/-- Only an empty room is taken off the register. -/
theorem sweep (agrees : Agrees roster log) (visitors : Nat) :
    Agrees (roster.sweep document room visitors) log := by
  have keeps {other : DocumentId} {room' : RoomId} {session : SessionId}
      (found : roster.room? other = some room') (sits : roster.Sits room' session) :
      (roster.sweep document room visitors).room? other = some room' := by
    rcases Roster.room?_sweep roster document other room visitors with
      same | ⟨rfl, -, vacant, registered, -⟩
    · exact same.trans found
    · rw [registered] at found
      cases found
      rw [Table.not_isEmpty_of_contains sits] at vacant
      cases vacant
  constructor
  · intro other session joined stays
    obtain ⟨room', found, sits⟩ := agrees.present joined stays
    exact ⟨room', keeps found sits, Roster.sits_sweep.mpr sits⟩
  · intro room' session sits
    obtain ⟨other, found, joined, stays⟩ := agrees.seated (Roster.sits_sweep.mp sits)
    exact ⟨other, keeps found (Roster.sits_sweep.mp sits), joined, stays⟩

end Agrees

end Lobby

/-! ## Guests -/

/-- What a guest can rely on: that the room he holds is the one of its document. -/
def Guest.Fits (roster : Roster) (log : List Lobby.Event) (guest : Guest) : Prop :=
  match guest.business with
  | .join session =>
      roster.room? guest.document = some guest.room ∧ ⟨.came, guest.document, session⟩ ∈ log ∧
        ∀ document, ⟨.joined, document, session⟩ ∉ log
  | .part session =>
      roster.room? guest.document = some guest.room ∧ ⟨.leaves, guest.document, session⟩ ∈ log
  | .sweep => roster.room? guest.document = some guest.room
  | .look => roster.room? guest.document = some guest.room
  | .gone => True

namespace Guest.Fits

variable {roster after : Roster} {log log' : List Lobby.Event} {guest : Guest}
  {document : DocumentId} {room : RoomId} {session : SessionId}

theorem join_iff : Guest.Fits roster log ⟨document, room, .join session⟩ ↔
    roster.room? document = some room ∧ ⟨.came, document, session⟩ ∈ log ∧
      ∀ other, ⟨.joined, other, session⟩ ∉ log := Iff.rfl

theorem part_iff : Guest.Fits roster log ⟨document, room, .part session⟩ ↔
    roster.room? document = some room ∧ ⟨.leaves, document, session⟩ ∈ log := Iff.rfl

theorem sweep_iff : Guest.Fits roster log ⟨document, room, .sweep⟩ ↔
    roster.room? document = some room := Iff.rfl

theorem look_iff : Guest.Fits roster log ⟨document, room, .look⟩ ↔
    roster.room? document = some room := Iff.rfl

theorem gone : Guest.Fits roster log ⟨document, room, .gone⟩ := trivial

theorem registered (fits : guest.Fits roster log) (about : guest.business ≠ .gone) :
    roster.room? guest.document = some guest.room := by
  obtain ⟨document, room, business⟩ := guest
  cases business with
  | join session => exact fits.1
  | part session => exact fits.1
  | sweep => exact fits
  | look => exact fits
  | gone => exact absurd rfl about

/-- A guest whose room stays has no need to look after what else happens. -/
theorem mono (fits : guest.Fits roster log)
    (rooms : guest.business ≠ .gone → after.room? guest.document = some guest.room)
    (events : ∀ event ∈ log, event ∈ log')
    (fresh : ∀ document session, guest.business = .join session →
      ⟨.joined, document, session⟩ ∈ log' → ⟨.joined, document, session⟩ ∈ log) :
    guest.Fits after log' := by
  obtain ⟨document, room, business⟩ := guest
  cases business with
  | join session =>
      refine ⟨rooms (by simp), events _ fits.2.1, ?_⟩
      intro other joined
      exact fits.2.2 other (fresh other session rfl joined)
  | part session => exact ⟨rooms (by simp), events _ fits.2⟩
  | sweep => exact rooms (by simp)
  | look => exact rooms (by simp)
  | gone => trivial

/-- Only a joining can spoil what a guest relies on, as long as the room stays. -/
theorem cons (fits : guest.Fits roster log)
    (rooms : guest.business ≠ .gone → after.room? guest.document = some guest.room)
    {event : Lobby.Event} (other : event.kind ≠ .joined) : guest.Fits after (event :: log) := by
  refine fits.mono rooms (fun _ => List.mem_cons_of_mem _) ?_
  intro document session joins joined
  refine (List.mem_cons.mp joined).resolve_left ?_
  rintro rfl
  exact other rfl

end Guest.Fits

namespace Lobby

variable {lobby : Lobby} {roster : Roster} {document other : DocumentId} {room : RoomId}
  {session session' : SessionId} {number number' : Nat} {guest guest' new : Guest}
  {log log' : List Event}

/-! ## What holds of every lobby -/

/-- Rooms and guests fit together, and so does what is remembered of them. -/
structure Sound (lobby : Lobby) : Prop where
  rosters : lobby.roster.Sound
  orderly : Orderly lobby.log lobby.roster.nextSession
  agrees : Agrees lobby.roster lobby.log
  guests {number : Nat} {guest : Guest} (found : lobby.guests.get? number = some guest) :
    guest.Fits lobby.roster lobby.log
  /-- Nobody sits down for somebody else. -/
  sole {number number' : Nat} {guest guest' : Guest} {session : SessionId}
    (found : lobby.guests.get? number = some guest)
    (found' : lobby.guests.get? number' = some guest')
    (joins : guest.business = .join session) (joins' : guest'.business = .join session) :
    number = number'
  /-- Whoever was asked to leave has left, or somebody is about to see to it. -/
  owed {document : DocumentId} {session : SessionId}
    (dismissed : Dismissed lobby.log document session) :
    ⟨.left, document, session⟩ ∈ lobby.log ∨
      ∃ number room, lobby.guests.get? number = some ⟨document, room, .part session⟩

theorem sound_empty : empty.Sound where
  rosters := Roster.sound_empty
  orderly := .start _
  agrees := ⟨fun joined => (List.not_mem_nil joined).elim, fun sits => by cases sits⟩
  guests found := by cases found
  sole found := by cases found
  owed := by
    rintro document session ⟨later, earlier, whole, -⟩
    cases later <;> cases whole

variable {guests : Table Nat Guest}

theorem fits_insert (fits : new.Fits roster log)
    (others : ∀ {number' guest}, number' ≠ number → guests.get? number' = some guest →
      guest.Fits roster log) (found : (guests.insert number new).get? number' = some guest) :
    guest.Fits roster log := by
  rw [Table.get?_insert] at found
  split at found
  · cases found
    exact fits
  · next apart => exact others (Ne.symm apart) found

/-- Where a guest has no more to sit down, nobody does so for somebody else. -/
theorem Sound.sole_insert (sound : lobby.Sound) (seated : ∀ session, new.business ≠ .join session)
    (found : (lobby.guests.insert number new).get? number' = some guest) {number'' : Nat}
    (found' : (lobby.guests.insert number new).get? number'' = some guest')
    (joins : guest.business = .join session) (joins' : guest'.business = .join session) :
    number' = number'' := by
  rw [Table.get?_insert] at found found'
  split at found
  · cases found
    exact absurd joins (seated session)
  · split at found'
    · cases found'
      exact absurd joins' (seated session)
    · exact sound.sole found found' joins joins'

/-- Who is to see to a leave goes on to be so, unless it is the guest with this number. -/
theorem parting_insert (others : ∀ room, guests.get? number ≠ some ⟨document, room, .part session⟩)
    (parting : ∃ number room, guests.get? number = some ⟨document, room, .part session⟩) :
    ∃ number' room,
      (guests.insert number new).get? number' = some ⟨document, room, .part session⟩ := by
  obtain ⟨number', room, found⟩ := parting
  refine ⟨number', room, ?_⟩
  rw [Table.get?_insert, if_neg]
  · exact found
  · rintro rfl
    exact others room found

/-- Where the guest with this number is not the one to see to a leave, the leaves that are owed
stay so. -/
theorem Sound.owed_insert (sound : lobby.Sound)
    (others : ∀ document room session,
      lobby.guests.get? number ≠ some ⟨document, room, .part session⟩)
    (events : lobby.log ⊆ log) (dismissed : Dismissed lobby.log document session) :
    ⟨.left, document, session⟩ ∈ log ∨ ∃ number' room,
      (lobby.guests.insert number new).get? number' = some ⟨document, room, .part session⟩ :=
  (sound.owed dismissed).imp (fun left => events left)
    (parting_insert fun room => others document room session)

/-- Who has joined and does not sit in the room of the document has left. -/
theorem Sound.left_of_absent (sound : lobby.Sound)
    (absent : ∀ room, lobby.roster.room? document = some room →
      ¬ lobby.roster.Sits room session)
    (joined : ⟨.joined, document, session⟩ ∈ lobby.log) :
    ⟨.left, document, session⟩ ∈ lobby.log := by
  by_contra stays
  obtain ⟨room, found, sits⟩ := sound.agrees.present joined stays
  exact absent room found sits

/-! ### Moves -/

/-- Who enters is shown the room of the document, and gets the next number. -/
theorem Sound.enter (sound : lobby.Sound) (free : lobby.guests.get? number = none)
    (document : DocumentId) :
    Sound
      { roster := (lobby.roster.enter document).2
        guests := lobby.guests.insert number
          ⟨document, (lobby.roster.enter document).1.2, .join (lobby.roster.enter document).1.1⟩
        log := ⟨.came, document, (lobby.roster.enter document).1.1⟩ :: lobby.log } := by
  have given : (lobby.roster.enter document).1.1 = lobby.roster.nextSession :=
    Roster.outboxes_enter.1
  have fresh : ⟨.came, document, lobby.roster.nextSession⟩ ∉ lobby.log :=
    fun came => Nat.lt_irrefl _ (sound.orderly.bounded came)
  rw [given]
  constructor
  case rosters => exact sound.rosters.changed (.entered document)
  case orderly =>
    show Orderly _ (lobby.roster.enter document).2.nextSession
    rw [Roster.nextSession_enter]
    exact sound.orderly.came document
  case agrees => exact sound.agrees.enter sound.rosters document _
  case guests =>
    intro number' guest found
    refine fits_insert ?_ ?_ found
    · refine ⟨Roster.room?_enter.trans (if_pos rfl), List.mem_cons_self, ?_⟩
      intro other joined
      have before := (List.mem_cons.mp joined).resolve_left (by simp)
      exact Nat.lt_irrefl _ (sound.orderly.bounded ((sound.orderly.causes _ _).1 before))
    · intro number'' guest' _ found'
      have fits := sound.guests found'
      refine fits.cons ?_ (by simp)
      intro about
      have kept : (lobby.roster.changed (.entered document)).room? guest'.document =
          some guest'.room :=
        Roster.room?_changed (fits.registered about) fun _ _ equal => by cases equal
      exact kept
  case sole =>
    intro number₁ number₂ guest₁ guest₂ session found₁ found₂ joins₁ joins₂
    -- Nobody who is there already has the number that is given now.
    have fresh {number' : Nat} {guest' : Guest} (found : lobby.guests.get? number' = some guest')
        (joins : guest'.business = .join lobby.roster.nextSession) : False := by
      obtain ⟨document', room', business⟩ := guest'
      cases joins
      exact Nat.lt_irrefl _
        (sound.orderly.bounded (Guest.Fits.join_iff.mp (sound.guests found)).2.1)
    rw [Table.get?_insert] at found₁ found₂
    split at found₁
    · next here =>
        cases found₁
        cases joins₁
        split at found₂
        · next here' => exact here.symm.trans here'
        · exact (fresh found₂ joins₂).elim
    · split at found₂
      · cases found₂
        cases joins₂
        exact (fresh found₁ joins₁).elim
      · exact sound.sole found₁ found₂ joins₁ joins₂
  case owed =>
    intro other session dismissed
    exact sound.owed_insert (by simp [free]) (List.subset_cons_self _ _)
      ((dismissed_cons dismissed).resolve_right (by simp))

/-- Who sits down in the room of the document has joined it. -/
theorem Sound.sit (sound : lobby.Sound)
    (found : lobby.guests.get? number = some ⟨document, room, .join session⟩) :
    Sound
      { roster := lobby.roster.sit room session
        guests := lobby.guests.insert number ⟨document, room, .look⟩
        log := ⟨.joined, document, session⟩ :: lobby.log } := by
  obtain ⟨registered, came, fresh⟩ := Guest.Fits.join_iff.mp (sound.guests found)
  constructor
  case rosters => exact sound.rosters.changed (.sat room session)
  case orderly => exact sound.orderly.joined came (fresh document)
  case agrees =>
    refine sound.agrees.sit registered ?_
    intro left
    exact fresh document ((sound.orderly.causes _ _).2 left).1
  case guests =>
    intro number' guest found'
    refine fits_insert (Guest.Fits.look_iff.mpr registered) ?_ found'
    intro number'' guest' apart found''
    have fits := sound.guests found''
    refine fits.mono fits.registered (fun _ => List.mem_cons_of_mem _) ?_
    intro other session' joins joined
    refine (List.mem_cons.mp joined).resolve_left ?_
    rintro ⟨⟩
    exact apart (sound.sole found'' found joins rfl)
  case sole =>
    intro number₁ number₂ guest₁ guest₂ session found₁ found₂
    exact sound.sole_insert (by simp) found₁ found₂
  case owed =>
    intro other session' dismissed
    exact sound.owed_insert (by simp [found]) (List.subset_cons_self _ _)
      ((dismissed_cons dismissed).resolve_right (by simp))

/-- Who is asked to leave is seen off, if his document has a room. -/
theorem Sound.find (sound : lobby.Sound) (free : lobby.guests.get? number = none)
    (registered : lobby.roster.room? document = some room) (session : SessionId) :
    Sound
      { lobby with
        guests := lobby.guests.insert number ⟨document, room, .part session⟩
        log := ⟨.leaves, document, session⟩ :: lobby.log } := by
  constructor
  case rosters => exact sound.rosters
  case orderly => exact sound.orderly.leaves document session
  case agrees => exact sound.agrees.leaves document session
  case guests =>
    intro number' guest found'
    refine fits_insert (Guest.Fits.part_iff.mpr ⟨registered, List.mem_cons_self⟩) ?_ found'
    intro number'' guest' _ found''
    have fits := sound.guests found''
    exact fits.cons fits.registered (by simp)
  case sole =>
    intro number₁ number₂ guest₁ guest₂ session found₁ found₂
    exact sound.sole_insert (by simp) found₁ found₂
  case owed =>
    intro other session' dismissed
    rcases dismissed_cons dismissed with before | ⟨same, -⟩
    · exact sound.owed_insert (by simp [free]) (List.subset_cons_self _ _) before
    · cases same
      exact .inr ⟨number, room, Table.get?_insert_self ..⟩

/-- Where his document has no room, whoever is asked to leave is not there. -/
theorem Sound.miss (sound : lobby.Sound) (absent : lobby.roster.room? document = none)
    (session : SessionId) :
    Sound { lobby with log := ⟨.leaves, document, session⟩ :: lobby.log } where
  rosters := sound.rosters
  orderly := sound.orderly.leaves document session
  agrees := sound.agrees.leaves document session
  guests := by
    intro number guest found
    have fits := sound.guests found
    exact fits.cons fits.registered (by simp)
  sole := sound.sole
  owed := by
    intro other session' dismissed
    refine (dismissed_cons dismissed).elim (fun before => ?_) ?_
    · exact (sound.owed before).imp (List.mem_cons_of_mem _) id
    · rintro ⟨⟨⟩, joined⟩
      refine .inl (List.mem_cons_of_mem _ (sound.left_of_absent ?_ joined))
      intro room found
      rw [absent] at found
      cases found

/-- Who has got up is not there any more. -/
theorem Sound.rise (sound : lobby.Sound)
    (found : lobby.guests.get? number = some ⟨document, room, .part session⟩)
    {business : Guest.Business} (goes : business = .sweep ∨ business = .look) :
    Sound
      { roster := (lobby.roster.rise room session).2
        guests := lobby.guests.insert number ⟨document, room, business⟩
        log := if lobby.roster.Sits room session then ⟨.left, document, session⟩ :: lobby.log
          else lobby.log } := by
  obtain ⟨registered, asked⟩ := Guest.Fits.part_iff.mp (sound.guests found)
  constructor
  case rosters => exact ⟨sound.rosters.bounded, sound.rosters.apart⟩
  case orderly =>
    show Orderly _ lobby.roster.nextSession
    split
    · next sits =>
        obtain ⟨other, found', joined, stays⟩ := sound.agrees.seated sits
        cases sound.rosters.apart registered found'
        exact sound.orderly.left joined asked stays
    · exact sound.orderly
  case agrees => exact sound.agrees.rise sound.rosters registered
  case guests =>
    intro number' guest found'
    have fits : Guest.Fits (lobby.roster.rise room session).2
        (if lobby.roster.Sits room session then ⟨.left, document, session⟩ :: lobby.log
          else lobby.log) ⟨document, room, business⟩ := by
      rcases goes with rfl | rfl
      · exact Guest.Fits.sweep_iff.mpr registered
      · exact Guest.Fits.look_iff.mpr registered
    refine fits_insert fits ?_ found'
    intro number'' guest' _ found''
    have fits := sound.guests found''
    split
    · exact fits.cons fits.registered (by simp)
    · exact fits
  case sole =>
    intro number₁ number₂ guest₁ guest₂ session found₁ found₂
    refine sound.sole_insert ?_ found₁ found₂
    rintro session' ⟨⟩
    rcases goes with same | same
    · cases same
    · cases same
  case owed =>
    intro other session' dismissed
    have before : Dismissed lobby.log other session' := by
      replace dismissed : Dismissed (if lobby.roster.Sits room session then
        ⟨.left, document, session⟩ :: lobby.log else lobby.log) other session' := dismissed
      split at dismissed
      · exact (dismissed_cons dismissed).resolve_right (by simp)
      · exact dismissed
    have kept : lobby.log ⊆ if lobby.roster.Sits room session then
        ⟨.left, document, session⟩ :: lobby.log else lobby.log := by
      split
      · exact List.subset_cons_self _ _
      · exact List.Subset.refl _
    rcases sound.owed before with left | ⟨number', room', parting⟩
    · exact .inl (kept left)
    · by_cases here : number = number'
      · subst here
        rw [found] at parting
        cases parting
        left
        by_cases sits : lobby.roster.Sits room session
        · exact (if_pos sits).symm ▸ List.mem_cons_self
        · refine kept (sound.left_of_absent ?_ before.joined)
          intro room' found' sits'
          cases registered.symm.trans found'
          exact sits sits'
      · exact .inr ⟨number', room', (Table.get?_insert ..).trans ((if_neg here).trans parting)⟩

theorem nextRoom_sweep {visitors : Nat} :
    (roster.sweep document room visitors).nextRoom = roster.nextRoom ∧
      (roster.sweep document room visitors).nextSession = roster.nextSession := by
  unfold Roster.sweep
  split
  · exact ⟨rfl, rfl⟩
  · exact ⟨rfl, rfl⟩

/-- A room is taken off the register only by somebody who is the only one to hold it. -/
theorem Sound.sweep (sound : lobby.Sound)
    (found : lobby.guests.get? number = some ⟨document, room, .sweep⟩) :
    Sound
      { lobby with
        roster := lobby.roster.sweep document room (lobby.visitors room)
        guests := lobby.guests.insert number ⟨document, room, .gone⟩ } := by
  have rooms {other : DocumentId} {room' : RoomId}
      (found' : (lobby.roster.sweep document room (lobby.visitors room)).room? other =
        some room') : lobby.roster.room? other = some room' := by
    rcases Roster.room?_sweep lobby.roster document other room (lobby.visitors room) with
      same | ⟨-, -, -, -, gone⟩
    · exact same.symm.trans found'
    · rw [gone] at found'
      cases found'
  constructor
  case rosters =>
    refine ⟨fun found' => ?_, fun found' beside =>
      sound.rosters.apart (rooms found') (rooms beside)⟩
    show _ < (lobby.roster.sweep document room (lobby.visitors room)).nextRoom
    rw [nextRoom_sweep.1]
    exact sound.rosters.bounded (rooms found')
  case orderly =>
    show Orderly _ (lobby.roster.sweep document room (lobby.visitors room)).nextSession
    rw [nextRoom_sweep.2]
    exact sound.orderly
  case agrees => exact sound.agrees.sweep (lobby.visitors room)
  case guests =>
    intro number' guest found'
    refine fits_insert Guest.Fits.gone ?_ found'
    intro number'' guest' apart found''
    have fits := sound.guests found''
    refine fits.mono ?_ (fun _ mem => mem) (fun _ _ _ joined => joined)
    intro about
    have registered := fits.registered about
    rcases Roster.room?_sweep lobby.roster document guest'.document room (lobby.visitors room) with
      same | ⟨here, few, -, registered', -⟩
    · exact same.trans registered
    · rw [here, registered] at registered'
      cases registered'
      exact absurd few (Nat.not_le.mpr
        (visitors_gt sound.rosters registered found'' found apart rfl rfl))
  case sole =>
    intro number₁ number₂ guest₁ guest₂ session found₁ found₂
    exact sound.sole_insert (by simp) found₁ found₂
  case owed =>
    intro other session dismissed
    exact sound.owed_insert (by simp [found]) (List.Subset.refl _) dismissed

/-- Who finds a room may look around in it. -/
theorem Sound.look (sound : lobby.Sound) (free : lobby.guests.get? number = none)
    (registered : lobby.roster.room? document = some room) :
    Sound { lobby with guests := lobby.guests.insert number ⟨document, room, .look⟩ } where
  rosters := sound.rosters
  orderly := sound.orderly
  agrees := sound.agrees
  guests := fits_insert (Guest.Fits.look_iff.mpr registered) fun _ => sound.guests
  sole found found' := by
    refine sound.sole_insert ?_ found found'
    simp
  owed dismissed := sound.owed_insert (by simp [free]) (List.Subset.refl _) dismissed

/-- Who has nothing more to do may quit. -/
theorem Sound.quit (sound : lobby.Sound) (found : lobby.guests.get? number = some guest)
    (idle : guest.business = .look ∨ guest.business = .gone) :
    Sound { lobby with guests := lobby.guests.erase number } := by
  have remains {number' : Nat} {guest' : Guest}
      (found' : (lobby.guests.erase number).get? number' = some guest') :
      lobby.guests.get? number' = some guest' := by
    rw [Table.get?_erase] at found'
    split at found'
    · cases found'
    · exact found'
  refine ⟨sound.rosters, sound.orderly, sound.agrees, fun found' => sound.guests (remains found'),
    fun found' found'' => sound.sole (remains found') (remains found''), ?_⟩
  intro document session dismissed
  refine (sound.owed dismissed).imp id ?_
  rintro ⟨number', room, parting⟩
  refine ⟨number', room, (Table.get?_erase ..).trans ((if_neg ?_).trans parting)⟩
  rintro rfl
  rw [found] at parting
  cases parting
  rcases idle with same | same
  · cases same
  · cases same

theorem room?_of_register {after : Roster} (same : after.register = roster.register)
    (document : DocumentId) : after.room? document = roster.room? document := by
  rw [Roster.room?, same]
  rfl

/-- What is done in rooms moves nobody. -/
theorem Sound.onRoster (sound : lobby.Sound) (change : Roster → Roster)
    (rooms : ∀ document, (change lobby.roster).room? document = lobby.roster.room? document)
    (sits : ∀ room session,
      (change lobby.roster).Sits room session ↔ lobby.roster.Sits room session)
    (nextRoom : (change lobby.roster).nextRoom = lobby.roster.nextRoom)
    (nextSession : (change lobby.roster).nextSession = lobby.roster.nextSession) :
    (lobby.onRoster change).Sound where
  rosters := by
    refine ⟨fun found => ?_, fun found beside => ?_⟩
    · rw [show (lobby.onRoster change).roster.nextRoom = _ from nextRoom]
      exact sound.rosters.bounded ((rooms _).symm.trans found)
    · exact sound.rosters.apart ((rooms _).symm.trans found) ((rooms _).symm.trans beside)
  orderly := nextSession ▸ sound.orderly
  agrees := sound.agrees.of_same rooms sits (fun _ _ => Iff.rfl) fun _ _ => Iff.rfl
  guests found := by
    have fits := sound.guests found
    exact fits.mono (fun about => (rooms _).trans (fits.registered about)) (fun _ mem => mem)
      fun _ _ _ joined => joined
  sole := sound.sole
  owed := sound.owed

/-- Passing a frame on moves nobody. -/
theorem Sound.pass (sound : lobby.Sound) (room : RoomId) (sender : SessionId) (frame : Frame) :
    (lobby.onRoster fun roster => (roster.pass room sender frame).2).Sound := by
  obtain ⟨rooms, register, nextRoom, nextSession⟩ :=
    @Roster.pass_beside lobby.roster room sender frame
  refine sound.onRoster _ (room?_of_register register) ?_ nextRoom nextSession
  intro room' session
  unfold Roster.Sits Roster.roomAt
  rw [rooms]

/-- Nor does telling of oneself. -/
theorem Sound.announce (sound : lobby.Sound)
    (registered : lobby.roster.room? document = some room) (session : SessionId)
    (payload : Bytes) :
    (lobby.onRoster fun roster => roster.announce room session payload).Sound := by
  have same : lobby.roster.announce room session payload =
      lobby.roster.setAwareness document session payload := by
    rw [setAwareness_eq, registered]
  obtain ⟨register, nextRoom, -⟩ :=
    @Roster.register_setAwareness lobby.roster document session payload
  rw [← same] at register nextRoom
  refine sound.onRoster _ (room?_of_register register) ?_ nextRoom ?_
  · intro room' session'
    rw [same]
    exact Roster.sits_setAwareness
  · unfold Roster.announce
    dsimp only
    split
    · rfl
    · rfl

/-- Every move keeps rooms and guests together. -/
theorem Sound.after (sound : lobby.Sound) (move : Move) : (lobby.after move).Sound := by
  cases move with
  | enter number document =>
      simp only [Lobby.after]
      split
      · exact sound
      · next free => exact sound.enter free document
  | sit number =>
      simp only [Lobby.after]
      split
      · next found => exact sound.sit found
      · exact sound
  | find number document session =>
      simp only [Lobby.after]
      split
      · exact sound
      · next free =>
          split
          · next absent => exact sound.miss absent session
          · next registered => exact sound.find free registered session
  | rise number =>
      simp only [Lobby.after]
      split
      · next document room session found =>
          refine sound.rise found ?_
          split
          · exact .inl rfl
          · exact .inr rfl
      · exact sound
  | sweep number =>
      simp only [Lobby.after]
      split
      · next found => exact sound.sweep found
      · exact sound
  | look number document =>
      simp only [Lobby.after]
      split
      · next free registered => exact sound.look free registered
      · exact sound
  | pass number sender frame =>
      simp only [Lobby.after]
      split
      · next room found => exact sound.pass room sender frame
      · exact sound
  | announce number session payload =>
      simp only [Lobby.after]
      split
      · next document room found =>
          have registered := Guest.Fits.look_iff.mp (sound.guests found)
          exact sound.announce registered session payload
      · exact sound
  | quit number =>
      simp only [Lobby.after]
      split
      · next found => exact sound.quit found (.inl rfl)
      · next found => exact sound.quit found (.inr rfl)
      · exact sound
  | outbox session change =>
      exact sound.onRoster (fun roster => roster.modifyOutbox session change) (fun _ => rfl)
        (fun _ _ => Iff.rfl) rfl rfl

theorem Run.sound (run : Run lobby) : lobby.Sound := by
  induction run with
  | start => exact sound_empty
  | step run move ih => exact ih.after move

/-! ## Nobody is left behind -/

/-- Whether nobody is about to join or to leave a document. -/
def Quiet (lobby : Lobby) (document : DocumentId) : Prop :=
  ∀ number guest, lobby.guests.get? number = some guest → guest.document = document →
    guest.business = .look ∨ guest.business = .gone

/-- Nobody sits where he cannot be found, and the sessions of a document are counted right. -/
structure Faithful (lobby : Lobby) : Prop where
  /-- Who has joined and was not asked to leave sits in the registered room. -/
  present {document : DocumentId} {session : SessionId}
    (joined : ⟨.joined, document, session⟩ ∈ lobby.log)
    (stays : ⟨.leaves, document, session⟩ ∉ lobby.log) :
    ∃ room, lobby.roster.room? document = some room ∧ lobby.roster.Sits room session
  /-- Nobody sits in a room that is not on the register. -/
  registered {room : RoomId} {session : SessionId} (sits : lobby.roster.Sits room session) :
    ∃ document, lobby.roster.room? document = some room
  /-- No number is given twice. -/
  numbers : (arrivals lobby.log).Nodup
  /-- A document has as many sessions as have joined it, without those that have left it. -/
  counts (document : DocumentId) :
    lobby.roster.count document + (sessions lobby.log .left document).length =
      (sessions lobby.log .joined document).length
  /-- Unless somebody is about to join or to leave, those have left who were asked to after
  they had joined. -/
  settled {document : DocumentId} {session : SessionId} (quiet : lobby.Quiet document)
    (dismissed : Dismissed lobby.log document session) :
    session ∈ sessions lobby.log .left document
  /-- Who counts in the room he has found counts the sessions of the document. -/
  counted {number : Nat} {document : DocumentId} {room : RoomId}
    (found : lobby.guests.get? number = some ⟨document, room, .look⟩) :
    (lobby.roster.roomAt room).seats.size = lobby.roster.count document

theorem count_of_room (found : roster.room? document = some room) :
    roster.count document = (roster.roomAt room).seats.size := by
  unfold Roster.count Roster.seats
  rw [found]
  rfl

/-- Those who sit at a document are those who have joined it and have not left. -/
theorem Sound.mem_seats (sound : lobby.Sound) (document : DocumentId) (session : SessionId) :
    session ∈ (lobby.roster.seats document).map Prod.fst ↔
      ⟨.joined, document, session⟩ ∈ lobby.log ∧ ⟨.left, document, session⟩ ∉ lobby.log := by
  cases found : lobby.roster.room? document with
  | none =>
      unfold Roster.seats
      rw [found]
      constructor
      · intro mem
        cases mem
      · rintro ⟨joined, stays⟩
        obtain ⟨room, found', -⟩ := sound.agrees.present joined stays
        rw [found] at found'
        cases found'
  | some room =>
      unfold Roster.seats
      rw [found]
      refine Table.mem_keys_iff.trans ?_
      constructor
      · intro sits
        obtain ⟨other, found', joined, stays⟩ := sound.agrees.seated sits
        cases sound.rosters.apart found found'
        exact ⟨joined, stays⟩
      · rintro ⟨joined, stays⟩
        obtain ⟨room', found', sits⟩ := sound.agrees.present joined stays
        rw [found] at found'
        cases found'
        exact sits

theorem Sound.counts (sound : lobby.Sound) (document : DocumentId) :
    lobby.roster.count document + (sessions lobby.log .left document).length =
      (sessions lobby.log .joined document).length := by
  have distinct : ((lobby.roster.seats document).map Prod.fst).Nodup := by
    unfold Roster.seats
    split
    · exact .nil
    · exact (lobby.roster.roomAt _).seats.nodup
  obtain ⟨joins, leaves⟩ := sound.orderly.sessions_nodup document
  have same : ((lobby.roster.seats document).map Prod.fst ++
      sessions lobby.log .left document).Perm (sessions lobby.log .joined document) := by
    refine (List.perm_ext_iff_of_nodup ?_ joins).mpr ?_
    · refine List.nodup_append.mpr ⟨distinct, leaves, ?_⟩
      rintro session sits _ left rfl
      exact ((sound.mem_seats document session).mp sits).2 (mem_sessions.mp left)
    · intro session
      rw [List.mem_append, sound.mem_seats, mem_sessions, mem_sessions]
      constructor
      · rintro (⟨joined, -⟩ | left)
        · exact joined
        · exact ((sound.orderly.causes _ _).2 left).1
      · intro joined
        by_cases left : ⟨.left, document, session⟩ ∈ lobby.log
        · exact .inr left
        · exact .inl ⟨joined, left⟩
  calc
    lobby.roster.count document + (sessions lobby.log .left document).length =
        ((lobby.roster.seats document).map Prod.fst ++
          sessions lobby.log .left document).length := by
      rw [List.length_append, List.length_map]
      rfl
    _ = (sessions lobby.log .joined document).length := same.length_eq

/-- However many join, leave and look around, step by step and all at once, nobody is left
behind in a room that cannot be found. -/
theorem Run.faithful (run : Run lobby) : lobby.Faithful where
  present joined stays :=
    run.sound.agrees.present joined fun left => stays ((run.sound.orderly.causes _ _).2 left).2
  registered sits := by
    obtain ⟨document, found, -⟩ := run.sound.agrees.seated sits
    exact ⟨document, found⟩
  numbers := run.sound.orderly.arrivals_nodup
  counts := run.sound.counts
  settled quiet dismissed := by
    rcases run.sound.owed dismissed with left | ⟨number, room, parting⟩
    · exact mem_sessions.mpr left
    · rcases quiet number _ parting rfl with idle | idle
      · cases idle
      · cases idle
  counted found :=
    (count_of_room (Guest.Fits.look_iff.mp (run.sound.guests found))).symm

theorem Run.foldl (run : Run lobby) (moves : List Move) : Run (moves.foldl Lobby.after lobby) := by
  induction moves generalizing lobby with
  | nil => exact run
  | cons move moves ih => exact ih (run.step move)

/-- While the last session of a document leaves it, another one is on its way in. -/
def crossing : List Move :=
  [.enter 0 ⟨"w", "d"⟩, .sit 0, .quit 0, .enter 1 ⟨"w", "d"⟩, .find 2 ⟨"w", "d"⟩ 1, .rise 2,
    .sweep 2, .quit 2, .sit 1, .quit 1]

theorem Run.faithful_crossing :
    Run (crossing.foldl Lobby.after empty) ∧
      (∃ room, (crossing.foldl Lobby.after empty).roster.room? ⟨"w", "d"⟩ = some room ∧
        (crossing.foldl Lobby.after empty).roster.Sits room 2) ∧
      (crossing.foldl Lobby.after empty).roster.count ⟨"w", "d"⟩ + 1 = 2 := by
  have run : Run (crossing.foldl Lobby.after empty) := Run.start.foldl crossing
  have joined : ⟨.joined, ⟨"w", "d"⟩, 2⟩ ∈ (crossing.foldl Lobby.after empty).log := by
    decide +kernel
  have stays : ⟨.leaves, ⟨"w", "d"⟩, 2⟩ ∉ (crossing.foldl Lobby.after empty).log := by
    decide +kernel
  have left : (sessions (crossing.foldl Lobby.after empty).log .left ⟨"w", "d"⟩).length = 1 := by
    decide +kernel
  have joins : (sessions (crossing.foldl Lobby.after empty).log .joined ⟨"w", "d"⟩).length = 2 := by
    decide +kernel
  have counts := run.faithful.counts ⟨"w", "d"⟩
  rw [left, joins] at counts
  exact ⟨run, run.faithful.present joined stays, counts⟩

end Lobby

end Coedit
