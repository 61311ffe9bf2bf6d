import Coedit.Proofs.Lock.Custody

/-!
# Giving holds back

What becomes of a token once a hold was issued for it.  The locker that issued the hold
remembers it until the answer to giving it back arrives, and by then no live lease carries
it any more; so whoever gives back all a locker remembers leaves nothing of it behind.
-/

namespace Coedit.Lock

open Lease

/-- A lease that ends no later has ended if the other has. -/
theorem hasEnded_of_le {lease old : Entry} {now later : Instant} (ended : old.hasEnded now = true)
    (onward : now ≤ later) (earlier : lease.ends ≤ old.ends) : lease.hasEnded later = true := by
  rw [Entry.hasEnded, decide_eq_true_iff] at ended ⊢
  exact Nat.le_trans earlier (Nat.le_trans ended onward)

/-! ## What a locker remembers -/

section Locker

variable {locker : Locker} {call : Call} {reply : Reply} {key token : String}

/-- Whether an answered call grants a key under a token. -/
def Grants (call : Call) (reply : Reply) (key token : String) : Prop :=
  reply = .ok true ∧ ∃ ttl, call = .claim key token ttl

/-- Whether an answered call gives a token back, or finds that it is not there. -/
def Settles (call : Call) (reply : Reply) (token : String) : Prop :=
  (∃ value, reply = .ok value) ∧ ∃ key, call = .revoke key token

/-- A locker remembers what it was granted until it has been given back. -/
theorem held_record :
    (locker.record call reply).held.get? token = some key ↔
      Grants call reply key token ∨
        locker.held.get? token = some key ∧ (∀ key, ¬ Grants call reply key token) ∧
          ¬ Settles call reply token := by
  unfold Locker.record
  split
  · next other fresh ttl =>
      rw [Table.get?_insert]
      by_cases same : fresh = token
      · simp [same, Grants]
      · simp [same, Grants, Settles]
  · next other gone value =>
      rw [Table.get?_erase]
      by_cases same : gone = token
      · simp [same, Grants, Settles]
      · simp [same, Grants, Settles]
  · next claimed revoked =>
      have never (other : String) : ¬ Grants call reply other token := by
        rintro ⟨rfl, ttl, rfl⟩
        exact claimed _ _ _ rfl rfl
      have unsettled : ¬ Settles call reply token := by
        rintro ⟨⟨value, rfl⟩, other, rfl⟩
        exact revoked _ _ _ rfl rfl
      simp [never, unsettled]

end Locker

namespace Client

/-- Whether a client has been answered, or will be, that a token was given back. -/
def Returned (client : Client) (token : String) : Prop :=
  (∃ key value, client.chore.call? = some (.revoke key token) ∧
    client.reply = some (.ok value)) ∨ client.removed? = some token

variable {client : Client} {token : String}

theorem removed?_cases (removed : client.removed? = some token) :
    (∃ hold, client.chore = .releasing hold ∧ client.reply = some (.ok true) ∧
        hold.token = token) ∨
      ∃ hold, client.chore = .released hold true ∧ hold.token = token := by
  obtain ⟨locker, chore, reply⟩ := client
  unfold removed? at removed
  dsimp only at removed
  split at removed
  · next hold =>
      cases removed
      exact .inl ⟨hold, rfl, rfl, rfl⟩
  · next hold =>
      cases removed
      exact .inr ⟨hold, rfl, rfl⟩
  · cases removed

/-- An answer tells a client that something was given back if it says so. -/
theorem returned_answered {call : Call} {reply : Reply}
    (calls : client.chore.call? = some call)
    (returned : Returned { client with reply := some reply } token) :
    ∃ key value, call = .revoke key token ∧ reply = .ok value := by
  rcases returned with ⟨key, value, revokes, answered⟩ | removed
  · cases calls.symm.trans revokes
    cases answered
    exact ⟨key, value, rfl, rfl⟩
  · rcases removed?_cases removed with ⟨hold, gives, answered, rfl⟩ | ⟨hold, given, rfl⟩
    · cases answered
      rw [gives] at calls
      cases calls
      exact ⟨hold.key, true, rfl, rfl⟩
    · rw [given] at calls
      cases calls

/-- A removal that answers tell of was granted. -/
theorem removed?_answered {call : Call} {reply : Reply} (calls : client.chore.call? = some call)
    (removed : removed? { client with reply := some reply } = some token) :
    reply = .ok true ∧ ∃ key, call = .revoke key token := by
  rcases removed?_cases removed with ⟨hold, gives, answered, rfl⟩ | ⟨hold, given, rfl⟩
  · cases answered
    rw [gives] at calls
    cases calls
    exact ⟨rfl, hold.key, rfl⟩
  · rw [given] at calls
    cases calls

/-- Nobody is told of a removal that was not on its way. -/
theorem removed?_told {call : Call} {reply : Reply} {moment : Moment}
    (calls : client.chore.call? = some call) (answered : client.reply = some reply)
    (removed : removed? ⟨client.locker, client.chore.answered reply moment, none⟩ = some token) :
    client.removed? = some token := by
  obtain ⟨locker, chore, told⟩ := client
  cases answered
  cases chore with
  | acquiring acquisition => cases removed
  | releasing hold =>
      rcases reply with error | _ | _
      · cases removed
      · cases removed
      · exact removed
  | released hold gone => cases calls
  | sweeping left gone => cases removed

/-- Nothing is told to who has just come or waited. -/
theorem not_returned {member : LockerId} {chore : Chore}
    (waiting : ∀ hold, chore ≠ .released hold true) : ¬ Returned ⟨member, chore, none⟩ token := by
  rintro (⟨key, value, -, answered⟩ | removed)
  · cases answered
  · rcases removed?_cases removed with ⟨hold, -, answered, -⟩ | ⟨hold, given, -⟩
    · cases answered
    · exact waiting hold given

end Client

namespace Cloakroom

variable {S : Type} {room after : Cloakroom S} {id other : ClientId} {client changed : Client}
  {member : LockerId} {hold : Hold} {call : Call} {reply : Reply} {key token : String}
  {lease : Entry} {moment : Moment}

/-! ## What answers change -/

theorem issuedBy_tell :
    (room.tell id client call reply moment).IssuedBy member key token ↔
      room.IssuedBy member key token ∨ member = client.locker ∧ Grants call reply key token := by
  constructor
  · rintro ⟨hold, issued, rfl, rfl⟩
    rcases issued_cases issued with before | new
    · exact .inl ⟨hold, before, rfl, rfl⟩
    · exact .inr new
  · rintro (⟨hold, issued, same⟩ | ⟨rfl, rfl, ttl, rfl⟩)
    · exact ⟨hold, issued_subset room id client call reply moment issued, same⟩
    · exact issuedBy_of_claim room id client moment

theorem mem_settled_tell :
    (member, token) ∈ (room.tell id client call reply moment).settled ↔
      (member, token) ∈ room.settled ∨ member = client.locker ∧ Settles call reply token := by
  unfold tell
  dsimp only
  rw [List.mem_append, List.mem_map]
  constructor
  · rintro (⟨gone, mem, same⟩ | old)
    · rw [Option.mem_toList] at mem
      cases same
      unfold settles? at mem
      split at mem <;> cases mem
      exact .inr ⟨rfl, ⟨_, rfl⟩, _, rfl⟩
    · exact .inl old
  · rintro (old | ⟨rfl, ⟨value, rfl⟩, other, rfl⟩)
    · exact .inr old
    · exact .inl ⟨token, List.mem_singleton_self _, rfl⟩

/-- What a locker remembers after an answer to one of its clients. -/
theorem held_tell {locker : Locker}
    (found : (room.tell id client call reply moment).lockers.members.get? member = some locker) :
    ∃ before, room.lockers.members.get? member = some before ∧
      ∀ token key, locker.held.get? token = some key ↔
        member = client.locker ∧ Grants call reply key token ∨
          before.held.get? token = some key ∧ ¬ (member = client.locker ∧
            ((∃ key, Grants call reply key token) ∨ Settles call reply token)) := by
  have got := (Table.get?_modify room.lockers.members client.locker member
    (·.record call reply)).symm.trans found
  by_cases same : client.locker = member
  · rw [if_pos same] at got
    obtain ⟨before, there, rfl⟩ := Option.map_eq_some_iff.mp got
    refine ⟨before, there, ?_⟩
    intro token key
    rw [held_record]
    simp [same]
  · rw [if_neg same] at got
    refine ⟨locker, got, ?_⟩
    simp [Ne.symm same]

/-- Whatever a client gives back was issued. -/
theorem Fits.issued_of_returned (fits : room.Fits client) (returned : client.Returned token) :
    ∃ owner key, room.IssuedBy owner key token := by
  rcases returned with ⟨key, value, calls, -⟩ | removed
  · obtain ⟨owner, issued⟩ := fits.issued_of_revoke calls
    exact ⟨owner, key, issued⟩
  · obtain ⟨locker, chore, reply⟩ := client
    rcases Client.removed?_cases removed with ⟨hold, rfl, -, rfl⟩ | ⟨hold, rfl, rfl⟩
    · obtain ⟨owner, issued⟩ := fits
      exact ⟨owner, hold.key, hold, issued, rfl, rfl⟩
    · obtain ⟨owner, issued⟩ := fits
      exact ⟨owner, hold.key, hold, issued, rfl, rfl⟩

/-! ## What is over -/

variable [Store S] [Lawful S]

/-- Whether no live lease carries a token any more. -/
def Gone (room : Cloakroom S) (token : String) : Prop :=
  ∀ key lease, room.lease? key = some lease → lease.token = token →
    lease.hasEnded room.now = true

/-- A token that was issued and is gone does not come back. -/
theorem Gone.step (gone : room.Gone token) (sound : room.Sound)
    (issued : room.IssuedBy member key token) (step : Step room after) : after.Gone token := by
  obtain ⟨hold, issued, -, rfl⟩ := issued
  cases step with
  | acquire => exact gone
  | release => exact gone
  | releaseAll => exact gone
  | rest => exact gone
  | tell => exact gone
  | perform failure found calls waiting =>
      intro key lease leased same
      rcases attempt_origin leased with before | ⟨-, ttl, rfl⟩
      · exact gone key lease before same
      · have claims := ((sound.fits found).sought_of_claim calls).1
        exact absurd (same ▸ claims) (sound.unissued found issued)
  | tick onward =>
      intro key lease leased same
      exact hasEnded_of_le (gone key lease leased same) onward (Nat.le_refl _)
  | meddle apart meddles =>
      intro key lease leased same
      rcases meddles key lease leased with mem | ⟨old, before, own, earlier⟩
      · exact absurd (sound.drawn issued) (same ▸ apart _ mem)
      · exact hasEnded_of_le (gone key old before (own.trans same)) (Nat.le_refl _) earlier

/-- What a cloakroom knows to be over, and what its lockers remember. -/
structure Kept (room : Cloakroom S) : Prop where
  sound : room.Sound
  settled {member : LockerId} {token : String} (past : (member, token) ∈ room.settled) :
    (∃ owner key, room.IssuedBy owner key token) ∧ room.Gone token
  returned {id : ClientId} {client : Client} {token : String}
    (found : room.clients id = some client) (past : client.Returned token) : room.Gone token
  once : Sole room.clients Client.removed?
  held {member : LockerId} {locker : Locker}
    (found : room.lockers.members.get? member = some locker) (token key : String) :
    locker.held.get? token = some key ↔
      room.IssuedBy member key token ∧ (member, token) ∉ room.settled

theorem Kept.settled_step (kept : room.Kept) (step : Step room after)
    (past : (member, token) ∈ room.settled) :
    (∃ owner key, room.IssuedBy owner key token) ∧ after.Gone token := by
  obtain ⟨⟨owner, key, issued⟩, gone⟩ := kept.settled past
  exact ⟨⟨owner, key, issued⟩, gone.step kept.sound issued step⟩

theorem Kept.returned_step (kept : room.Kept) (step : Step room after)
    (found : room.clients id = some client) (past : client.Returned token) : after.Gone token := by
  obtain ⟨owner, key, issued⟩ := (kept.sound.fits found).issued_of_returned past
  exact (kept.returned found past).step kept.sound issued step

theorem IsOpened.kept (opened : room.IsOpened) : room.Kept where
  sound := opened.sound
  settled past := by simp [opened.settled] at past
  returned found := by simp [opened.clients] at found
  once := by
    intro id other client rival token found
    simp [opened.clients] at found
  held := by
    intro member locker found token key
    rw [opened.held member locker found, Table.get?_empty]
    refine iff_of_false nofun ?_
    rintro ⟨⟨hold, issued, -⟩, -⟩
    simp [opened.issued] at issued

/-- Somebody comes, or goes on after a pause. -/
theorem Kept.turn (kept : room.Kept) {drawn : List String}
    (sound : Sound { room.seat id changed with drawn := drawn })
    (quiet : ∀ token, ¬ changed.Returned token) :
    Kept { room.seat id changed with drawn := drawn } where
  sound := sound
  settled := kept.settled
  returned seated past := by
    rcases seated_cases seated with ⟨-, rfl⟩ | ⟨-, found⟩
    · exact absurd past (quiet _)
    · exact kept.returned found past
  once := kept.once.seat fun token removed => absurd (.inr removed) (quiet token)
  held := kept.held

/-- A token is gone once the store has answered a call to give it back. -/
theorem Sound.gone_of_revoke (sound : room.Sound) {failure : Option StoreError} {value : Bool}
    (issued : room.IssuedBy member key token)
    (answered : (room.attempt failure (.revoke key token)).1 = .ok value) :
    (room.perform id client failure (.revoke key token)).Gone token := by
  obtain ⟨hold, issued, rfl, rfl⟩ := issued
  intro other lease leased same
  rcases attempt_origin leased with before | ⟨-, ttl, claims⟩
  · obtain rfl := sound.placed issued before same
    have made := call_of_attempt answered
    cases value with
    | true => cases leased.symm.trans (Lawful.revoke_removed made).2
    | false => exact (Lawful.revoke_refused made).1 lease before same
  · cases claims

/-- Only a live lease is removed. -/
theorem not_gone_of_removed {failure : Option StoreError}
    (answered : (room.attempt failure (.revoke key token)).1 = .ok true) : ¬ room.Gone token := by
  intro gone
  obtain ⟨lease, leased, same, live⟩ := (Lawful.revoke_removed (call_of_attempt answered)).1
  have ended := gone key lease leased same
  rw [live] at ended
  cases ended

theorem Kept.perform (kept : room.Kept) (failure : Option StoreError)
    (found : room.clients id = some client) (calls : client.chore.call? = some call)
    (waiting : client.reply = none) : (room.perform id client failure call).Kept := by
  have step : Step room (room.perform id client failure call) :=
    .perform failure found calls waiting
  refine ⟨kept.sound.perform failure found calls waiting, kept.settled_step step, ?_, ?_,
    kept.held⟩
  · intro other rival token seated past
    rcases seated_cases seated with ⟨-, rfl⟩ | ⟨-, beside⟩
    · obtain ⟨key, value, rfl, answered⟩ := Client.returned_answered calls past
      obtain ⟨owner, issued⟩ := (kept.sound.fits found).issued_of_revoke calls
      exact kept.sound.gone_of_revoke issued answered
    · exact kept.returned_step step beside past
  · -- a removal that was just made is the first of its token
    refine kept.once.seat ?_
    intro token removed
    obtain ⟨answered, key, rfl⟩ := Client.removed?_answered calls removed
    exact .inr fun other rival beside too =>
      not_gone_of_removed answered (kept.returned beside (.inr too))

theorem Kept.tell (kept : room.Kept) (found : room.clients id = some client)
    (calls : client.chore.call? = some call) (answered : client.reply = some reply)
    (moment : Moment) : (room.tell id client call reply moment).Kept := by
  have grows := issued_subset room id client call reply moment
  refine ⟨kept.sound.tell found calls answered moment, ?_, ?_, ?_, ?_⟩
  · intro member token past
    rcases mem_settled_tell.mp past with before | ⟨-, ⟨value, rfl⟩, key, rfl⟩
    · obtain ⟨⟨owner, key, issued⟩, gone⟩ := kept.settled before
      exact ⟨⟨owner, key, issued.mono grows⟩, gone⟩
    · obtain ⟨owner, issued⟩ := (kept.sound.fits found).issued_of_revoke calls
      exact ⟨⟨owner, key, issued.mono grows⟩,
        kept.returned found (.inl ⟨key, value, calls, answered⟩)⟩
  · intro other rival token seated past
    rcases seated_cases seated with ⟨-, rfl⟩ | ⟨-, beside⟩
    · rcases past with ⟨key, value, -, told⟩ | removed
      · cases told
      · exact kept.returned found (.inr (Client.removed?_told calls answered removed))
    · exact kept.returned beside past
  · refine kept.once.seat ?_
    intro token removed
    exact .inl ⟨client, found, Client.removed?_told calls answered removed⟩
  · intro member locker there token key
    obtain ⟨before, here, held⟩ := held_tell there
    -- a token that was just granted had not been issued, let alone settled
    have fresh (granted : String) (grants : Grants call reply granted token) :
        (∀ owner key, ¬ room.IssuedBy owner key token) ∧
          (∀ owner, (owner, token) ∉ room.settled) ∧ ¬ Settles call reply token := by
      obtain ⟨rfl, ttl, rfl⟩ := grants
      have claims := ((kept.sound.fits found).sought_of_claim calls).1
      have unissued : ∀ owner key, ¬ room.IssuedBy owner key token := by
        rintro owner key ⟨hold, issued, -, rfl⟩
        exact kept.sound.unissued found issued claims
      refine ⟨unissued, ?_, ?_⟩
      · intro owner past
        obtain ⟨⟨issuer, key, issued⟩, -⟩ := kept.settled past
        exact unissued issuer key issued
      · rintro ⟨-, key, revokes⟩
        cases revokes
    rw [held, kept.held here, issuedBy_tell, mem_settled_tell]
    grind

theorem Kept.tick (kept : room.Kept) {later : Instant} (onward : room.now ≤ later) :
    Kept { room with now := later } where
  sound := kept.sound.tick later
  settled := kept.settled_step (.tick onward)
  returned := kept.returned_step (.tick onward)
  once := kept.once
  held := kept.held

theorem Kept.meddle (kept : room.Kept) {store : S} {tokens : List String}
    (apart : ∀ token ∈ tokens, token ∉ room.drawn) (meddles : room.Meddles store tokens) :
    Kept { room with
      lockers := { room.lockers with store := store }
      foreign := tokens ++ room.foreign } where
  sound := kept.sound.meddle apart meddles
  settled := kept.settled_step (.meddle apart meddles)
  returned := kept.returned_step (.meddle apart meddles)
  once := kept.once
  held := kept.held

/-- What one step keeps. -/
theorem Kept.step (kept : room.Kept) (step : Step room after) : after.Kept := by
  cases step with
  | @acquire id member locker key guard maxWait moment free found unused =>
      have fits : room.Fits
          ⟨member, .acquiring (.start key guard locker.settings maxWait moment), none⟩ :=
        ⟨Acquisition.sound_start .., nofun⟩
      refine kept.turn (kept.sound.turn [moment.token] fits ?_ ?_)
        fun token => Client.not_returned nofun
      · rintro token ⟨⟩
        exact .inl (List.mem_singleton_self _)
      · intro token mem
        rw [List.mem_singleton.mp mem]
        exact unused
  | release member free issued =>
      exact kept.turn (kept.sound.turn [] ⟨_, issued⟩ nofun nofun)
        fun token => Client.not_returned nofun
  | releaseAll free found =>
      have fits := fits_sweeping fun token key held => ((kept.held found token key).mp held).1
      exact kept.turn (kept.sound.turn [] fits nofun nofun)
        fun token => Client.not_returned nofun
  | perform failure found calls waiting => exact kept.perform failure found calls waiting
  | tell moment found calls answered => exact kept.tell found calls answered moment
  | @rest id member acquisition pause moment found need unused =>
      obtain ⟨inner, issued⟩ := kept.sound.fits found
      have fits : room.Fits ⟨member, .acquiring (acquisition.rested moment), none⟩ := by
        refine ⟨Acquisition.sound_rested inner moment, ?_⟩
        intro token holds
        rw [Acquisition.holds?_rested] at holds
        rw [Acquisition.key_rested]
        exact issued token holds
      refine kept.turn (kept.sound.turn [moment.token] fits ?_ ?_)
        fun token => Client.not_returned nofun
      · intro token sought
        rcases Acquisition.sought?_rested sought with before | rfl
        · exact .inr ⟨_, found, rfl, before⟩
        · exact .inl (List.mem_singleton_self _)
      · intro token mem
        rw [List.mem_singleton.mp mem]
        exact unused
  | tick onward => exact kept.tick onward
  | meddle apart meddles => exact kept.meddle apart meddles

/-- What any number of steps keep. -/
theorem Kept.leads (kept : room.Kept) (leads : room.Leads after) : after.Kept := by
  induction leads with
  | refl => exact kept
  | tail _ step ih => exact ih.step step

end Cloakroom

end Coedit.Lock
