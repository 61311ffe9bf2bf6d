import Coedit.Proofs.Lock.Cloakroom

/-!
# Custody

Where the tokens of a cloakroom are.  A token is sought until the store grants it its key;
then a locker issues a hold for it, and whatever lease carries it lies at the key of that
hold.  Nobody gives back a token for which no hold was issued.
-/

namespace Coedit.Lock

open Lease

namespace Cloakroom

variable {S : Type} {room after : Cloakroom S} {id other : ClientId} {client changed : Client}
  {member : LockerId} {hold : Hold} {call : Call} {reply : Reply} {key token : String}
  {lease : Entry}

/-! ## What clients may do -/

/-- Whether a locker has issued a hold of a key under a token. -/
def IssuedBy (room : Cloakroom S) (member : LockerId) (key token : String) : Prop :=
  ∃ hold, (member, hold) ∈ room.issued ∧ hold.key = key ∧ hold.token = token

theorem IssuedBy.mono (issued : room.IssuedBy member key token)
    (grows : room.issued ⊆ after.issued) : after.IssuedBy member key token := by
  obtain ⟨hold, mem, same⟩ := issued
  exact ⟨hold, grows mem, same⟩

/-- Whether a client gives back what was issued, and nothing else. -/
def Fits (room : Cloakroom S) (client : Client) : Prop :=
  match client.chore with
  | .acquiring acquisition =>
      acquisition.Sound ∧ ∀ token, acquisition.phase.holds? none = some token →
        room.IssuedBy client.locker acquisition.key token
  | .releasing hold => ∃ owner, (owner, hold) ∈ room.issued
  | .released hold _ => ∃ owner, (owner, hold) ∈ room.issued
  | .sweeping left _ =>
      ∀ call ∈ left, ∃ key token, call = .revoke key token ∧
        room.IssuedBy client.locker key token

theorem Fits.mono (fits : room.Fits client) (grows : room.issued ⊆ after.issued) :
    after.Fits client := by
  obtain ⟨locker, chore, reply⟩ := client
  cases chore with
  | acquiring acquisition =>
      exact ⟨fits.1, fun token holds => (fits.2 token holds).mono grows⟩
  | releasing hold => exact fits.imp fun _ issued => grows issued
  | released hold removed => exact fits.imp fun _ issued => grows issued
  | sweeping left removed =>
      intro call mem
      obtain ⟨key, token, revokes, issued⟩ := fits call mem
      exact ⟨key, token, revokes, issued.mono grows⟩

/-- Whoever claims a key seeks it. -/
theorem Fits.sought_of_claim (fits : room.Fits client) {ttl : Duration}
    (calls : client.chore.call? = some (.claim key token ttl)) :
    client.sought? = some token ∧
      ∃ acquisition, client.chore = .acquiring acquisition ∧ acquisition.key = key := by
  obtain ⟨locker, chore, reply⟩ := client
  cases chore with
  | acquiring acquisition =>
      have need := Chore.call?_acquiring.mp calls
      have own := (Acquisition.key_of_claim fits.1 need).1
      exact ⟨Acquisition.sought?_of_claim need, acquisition, rfl, own.symm⟩
  | releasing hold => cases calls
  | released hold removed => cases calls
  | sweeping left removed =>
      obtain ⟨key, token, revokes, -⟩ := fits _ (List.mem_of_head? calls)
      cases revokes

/-- What is given back was issued. -/
theorem Fits.issued_of_revoke (fits : room.Fits client)
    (calls : client.chore.call? = some (.revoke key token)) :
    ∃ owner, room.IssuedBy owner key token := by
  obtain ⟨locker, chore, reply⟩ := client
  cases chore with
  | acquiring acquisition =>
      obtain ⟨own, held, -⟩ := Acquisition.key_of_revoke (Chore.call?_acquiring.mp calls)
      exact ⟨locker, own ▸ fits.2 token held⟩
  | releasing hold =>
      cases calls
      obtain ⟨owner, issued⟩ := fits
      exact ⟨owner, hold, issued, rfl, rfl⟩
  | released hold removed => cases calls
  | sweeping left removed =>
      obtain ⟨key, token, revokes, issued⟩ := fits _ (List.mem_of_head? calls)
      cases revokes
      exact ⟨locker, issued⟩

/-! ## Seats -/

/-- Who is at a number after somebody was seated. -/
theorem seated_cases {clients : ClientId → Option Client}
    (found : Function.update clients id (some changed) other = some client) :
    other = id ∧ client = changed ∨ other ≠ id ∧ clients other = some client := by
  by_cases same : other = id
  · rw [same, Function.update_self] at found
    exact .inl ⟨same, (Option.some.inj found).symm⟩
  · rw [Function.update_of_ne same] at found
    exact .inr ⟨same, found⟩

/-- Whether no two clients have the same mark. -/
def Sole (clients : ClientId → Option Client) (mark : Client → Option String) : Prop :=
  ∀ ⦃id other client rival token⦄, clients id = some client → clients other = some rival →
    mark client = some token → mark rival = some token → id = other

/-- A mark stays the only one if whoever is seated has it already, or nobody has. -/
theorem Sole.seat {clients : ClientId → Option Client} {mark : Client → Option String}
    (sole : Sole clients mark)
    (fresh : ∀ token, mark changed = some token →
      (∃ before, clients id = some before ∧ mark before = some token) ∨
        ∀ other rival, clients other = some rival → mark rival ≠ some token) :
    Sole (Function.update clients id (some changed)) mark := by
  have own {other : ClientId} {rival : Client} {token : String}
      (beside : clients other = some rival) (marked : mark changed = some token)
      (too : mark rival = some token) : other = id := by
    rcases fresh token marked with ⟨before, found, same⟩ | unmarked
    · exact sole beside found too same
    · exact absurd too (unmarked other rival beside)
  intro first second client rival token seated other marked too
  rcases seated_cases seated with ⟨here, rfl⟩ | ⟨-, ours⟩ <;>
    rcases seated_cases other with ⟨there, rfl⟩ | ⟨-, theirs⟩
  · exact here.trans there.symm
  · exact here.trans (own theirs marked too).symm
  · exact (own ours too marked).trans there.symm
  · exact sole ours theirs marked too

/-! ## Answers -/

/-- What was issued with an answer is a hold of the key that was claimed. -/
theorem issued_cases {moment : Moment} {owner : LockerId}
    (issued : (owner, hold) ∈ (room.tell id client call reply moment).issued) :
    (owner, hold) ∈ room.issued ∨
      owner = client.locker ∧ reply = .ok true ∧
        ∃ ttl, call = .claim hold.key hold.token ttl := by
  rcases List.mem_append.mp issued with new | old
  · obtain ⟨fresh, mem, same⟩ := List.mem_map.mp new
    rw [Option.mem_toList] at mem
    cases same
    unfold issues? at mem
    split at mem <;> cases mem
    exact .inr ⟨rfl, rfl, _, rfl⟩
  · exact .inl old

theorem issued_subset (room : Cloakroom S) (id : ClientId) (client : Client) (call : Call)
    (reply : Reply) (moment : Moment) :
    room.issued ⊆ (room.tell id client call reply moment).issued :=
  List.subset_append_right _ _

/-- A claim that was granted makes a locker issue a hold. -/
theorem issuedBy_of_claim (room : Cloakroom S) (id : ClientId) (client : Client)
    {ttl : Duration} (moment : Moment) :
    (room.tell id client (.claim key token ttl) (.ok true) moment).IssuedBy client.locker key
      token :=
  ⟨⟨key, token, room.now, ttl⟩, List.mem_cons_self, rfl, rfl⟩

/-- Who has been told an answer gives back what was issued. -/
theorem Fits.told (fits : room.Fits client) (calls : client.chore.call? = some call)
    (moment : Moment) :
    (room.tell id client call reply moment).Fits
      ⟨client.locker, client.chore.answered reply moment, none⟩ := by
  have grows := issued_subset room id client call reply moment
  obtain ⟨locker, chore, earlier⟩ := client
  cases chore with
  | acquiring acquisition =>
      have need := Chore.call?_acquiring.mp calls
      refine ⟨Acquisition.sound_answered fits.1 reply moment, ?_⟩
      intro token holds
      rw [Acquisition.holds?_answered] at holds
      rw [Acquisition.key_answered]
      rcases Acquisition.holds?_some fits.1 holds with before | ⟨rfl, ttl, claims⟩
      · exact (fits.2 token before).mono grows
      · cases need.symm.trans claims
        exact issuedBy_of_claim room id _ moment
  | releasing hold => exact fits.imp fun _ issued => grows issued
  | released hold removed => cases calls
  | sweeping left removed =>
      intro call mem
      obtain ⟨key, token, revokes, issued⟩ := fits call (List.mem_of_mem_tail mem)
      exact ⟨key, token, revokes, issued.mono grows⟩

/-- A token is sought on only after a refusal. -/
theorem sought?_told {moment : Moment} (calls : client.chore.call? = some call)
    (seeks : Client.sought? ⟨client.locker, client.chore.answered reply moment, none⟩ =
      some token) : client.sought? = some token ∧ reply = .ok false := by
  obtain ⟨locker, chore, earlier⟩ := client
  cases chore with
  | acquiring acquisition =>
      exact Acquisition.sought?_answered (Chore.call?_acquiring.mp calls) seeks
  | releasing hold => cases seeks
  | released hold removed => cases seeks
  | sweeping left removed => cases seeks

/-- What a locker gives back it has issued. -/
theorem fits_sweeping {locker : Locker} {member : LockerId}
    (held : ∀ token key, locker.held.get? token = some key → room.IssuedBy member key token) :
    room.Fits ⟨member, .sweeping locker.revocations 0, none⟩ := by
  intro call mem
  obtain ⟨⟨token, key⟩, entry, rfl⟩ := List.mem_map.mp mem
  exact ⟨key, token, rfl, held token key (Table.get?_eq_some_iff.mpr entry)⟩

/-! ## Where tokens are -/

variable [Store S] [Lawful S]

/-- Where the tokens of a cloakroom are. -/
structure Sound (room : Cloakroom S) : Prop where
  fits {id : ClientId} {client : Client} (found : room.clients id = some client) :
    room.Fits client
  known {key : String} {lease : Entry} (leased : room.lease? key = some lease) :
    lease.token ∈ room.drawn ∨ lease.token ∈ room.foreign
  sought {id : ClientId} {client : Client} {token : String}
    (found : room.clients id = some client) (seeks : client.sought? = some token) :
    token ∈ room.drawn
  apart : Sole room.clients Client.sought?
  drawn {member : LockerId} {hold : Hold} (issued : (member, hold) ∈ room.issued) :
    hold.token ∈ room.drawn
  unissued {id : ClientId} {client : Client} {member : LockerId} {hold : Hold}
    (found : room.clients id = some client) (issued : (member, hold) ∈ room.issued) :
    client.sought? ≠ some hold.token
  once : (room.issued.map fun entry => entry.2.token).Nodup
  /-- A lease with a token that is sought was granted just now. -/
  granted {id : ClientId} {client : Client} {key : String} {lease : Entry}
    (found : room.clients id = some client) (leased : room.lease? key = some lease)
    (seeks : client.sought? = some lease.token) :
    client.reply = some (.ok true) ∧
      ∃ acquisition, client.chore = .acquiring acquisition ∧ acquisition.key = key
  placed {member : LockerId} {hold : Hold} {key : String} {lease : Entry}
    (issued : (member, hold) ∈ room.issued) (leased : room.lease? key = some lease)
    (same : lease.token = hold.token) : key = hold.key

theorem IsOpened.sound (opened : room.IsOpened) : room.Sound where
  fits found := by simp [opened.clients] at found
  known leased := .inr (opened.foreign _ _ leased)
  sought found := by simp [opened.clients] at found
  apart := by
    intro id other client rival token found
    simp [opened.clients] at found
  drawn issued := by simp [opened.issued] at issued
  unissued found := by simp [opened.clients] at found
  once := by simp [opened.issued]
  granted found := by simp [opened.clients] at found
  placed issued := by simp [opened.issued] at issued

/-- Somebody comes, or goes on after a pause, with a token that nobody has. -/
theorem Sound.turn (sound : room.Sound) (tokens : List String) (fits : room.Fits changed)
    (seeks : ∀ token, changed.sought? = some token → token ∈ tokens ∨
      ∃ before, room.clients id = some before ∧ before.reply = none ∧
        before.sought? = some token)
    (unused : ∀ token ∈ tokens, token ∉ room.drawn ∧ token ∉ room.foreign) :
    { room.seat id changed with drawn := tokens ++ room.drawn }.Sound where
  fits found := by
    rcases seated_cases found with ⟨-, rfl⟩ | ⟨-, found⟩
    · exact fits.mono (List.Subset.refl _)
    · exact (sound.fits found).mono (List.Subset.refl _)
  known leased := (sound.known leased).imp_left (List.mem_append_right _)
  sought found new := by
    rcases seated_cases found with ⟨-, rfl⟩ | ⟨-, found⟩
    · rcases seeks _ new with mem | ⟨before, found, -, same⟩
      · exact List.mem_append_left _ mem
      · exact List.mem_append_right _ (sound.sought found same)
    · exact List.mem_append_right _ (sound.sought found new)
  apart := by
    -- a token that is new is sought by nobody else; any other was sought by the same client
    refine sound.apart.seat ?_
    intro token new
    rcases seeks token new with mem | ⟨before, found, -, same⟩
    · exact .inr fun other rival beside rivals => (unused token mem).1 (sound.sought beside rivals)
    · exact .inl ⟨before, found, same⟩
  drawn issued := List.mem_append_right _ (sound.drawn issued)
  unissued found issued := by
    rcases seated_cases found with ⟨-, rfl⟩ | ⟨-, found⟩
    · intro new
      rcases seeks _ new with mem | ⟨before, found, -, same⟩
      · exact (unused _ mem).1 (sound.drawn issued)
      · exact sound.unissued found issued same
    · exact sound.unissued found issued
  once := sound.once
  granted found leased new := by
    rcases seated_cases found with ⟨-, rfl⟩ | ⟨-, found⟩
    · rcases seeks _ new with mem | ⟨before, found, unanswered, same⟩
      · rcases sound.known leased with ours | foreign
        · exact absurd ours (unused _ mem).1
        · exact absurd foreign (unused _ mem).2
      · have answered := (sound.granted found leased same).1
        rw [unanswered] at answered
        cases answered
    · exact sound.granted found leased new
  placed := sound.placed

/-- A lease was there before a call, or has just been granted. -/
theorem attempt_origin {failure : Option StoreError}
    (leased : Lawful.lease? (room.attempt failure call).2 key = some lease) :
    room.lease? key = some lease ∨
      (room.attempt failure call).1 = .ok true ∧ ∃ ttl, call = .claim key lease.token ttl := by
  cases failure with
  | some error => exact .inl leased
  | none => exact Lawful.origin rfl leased

theorem Sound.perform (sound : room.Sound) (failure : Option StoreError)
    (found : room.clients id = some client) (calls : client.chore.call? = some call)
    (waiting : client.reply = none) : (room.perform id client failure call).Sound where
  fits beside := by
    rcases seated_cases beside with ⟨-, rfl⟩ | ⟨-, beside⟩
    · exact (sound.fits found).mono (List.Subset.refl _)
    · exact (sound.fits beside).mono (List.Subset.refl _)
  known leased := by
    rcases attempt_origin leased with before | ⟨-, ttl, rfl⟩
    · exact sound.known before
    · exact .inl (sound.sought found ((sound.fits found).sought_of_claim calls).1)
  sought beside seeks := by
    rcases seated_cases beside with ⟨-, rfl⟩ | ⟨-, beside⟩
    · exact sound.sought found seeks
    · exact sound.sought beside seeks
  apart := sound.apart.seat fun token seeks => .inl ⟨client, found, seeks⟩
  drawn := sound.drawn
  unissued := by
    intro other rival member hold seated issued seeks
    rcases seated_cases seated with ⟨-, rfl⟩ | ⟨-, beside⟩
    · exact sound.unissued found issued seeks
    · exact sound.unissued beside issued seeks
  once := sound.once
  granted := by
    intro other rival key lease seated leased seeks
    rcases seated_cases seated with ⟨-, rfl⟩ | ⟨away, beside⟩
    · rcases attempt_origin leased with before | ⟨answered, ttl, rfl⟩
      · have early := (sound.granted found before seeks).1
        rw [waiting] at early
        cases early
      · exact ⟨congrArg some answered, ((sound.fits found).sought_of_claim calls).2⟩
    · rcases attempt_origin leased with before | ⟨-, ttl, rfl⟩
      · exact sound.granted beside before seeks
      · have claims := ((sound.fits found).sought_of_claim calls).1
        exact absurd (sound.apart beside found seeks claims) away
  placed issued leased same := by
    rcases attempt_origin leased with before | ⟨-, ttl, rfl⟩
    · exact sound.placed issued before same
    · have claims := ((sound.fits found).sought_of_claim calls).1
      exact absurd (same ▸ claims) (sound.unissued found issued)

theorem Sound.tell (sound : room.Sound) (found : room.clients id = some client)
    (calls : client.chore.call? = some call) (answered : client.reply = some reply)
    (moment : Moment) : (room.tell id client call reply moment).Sound where
  fits seated := by
    rcases seated_cases seated with ⟨-, rfl⟩ | ⟨-, beside⟩
    · exact (sound.fits found).told calls moment
    · exact (sound.fits beside).mono (issued_subset ..)
  known := sound.known
  sought seated seeks := by
    rcases seated_cases seated with ⟨-, rfl⟩ | ⟨-, beside⟩
    · exact sound.sought found (sought?_told calls seeks).1
    · exact sound.sought beside seeks
  apart := sound.apart.seat fun token seeks => .inl ⟨client, found, (sought?_told calls seeks).1⟩
  drawn issued := by
    rcases issued_cases issued with before | ⟨-, -, ttl, rfl⟩
    · exact sound.drawn before
    · exact sound.sought found ((sound.fits found).sought_of_claim calls).1
  unissued := by
    intro other rival member hold seated issued seeks
    rcases issued_cases issued with before | ⟨-, rfl, ttl, rfl⟩ <;>
      rcases seated_cases seated with ⟨-, rfl⟩ | ⟨away, beside⟩
    · exact sound.unissued found before (sought?_told calls seeks).1
    · exact sound.unissued beside before seeks
    · cases (sought?_told calls seeks).2
    · have claims := ((sound.fits found).sought_of_claim calls).1
      exact away (sound.apart beside found seeks claims)
  once := by
    unfold Cloakroom.tell
    dsimp only
    cases new : issues? room.now call reply with
    | none => exact sound.once
    | some hold =>
        unfold issues? at new
        split at new <;> cases new
        have claims := ((sound.fits found).sought_of_claim calls).1
        refine List.nodup_cons.mpr ⟨?_, sound.once⟩
        intro mem
        obtain ⟨⟨member, issued⟩, before, same⟩ := List.mem_map.mp mem
        dsimp only at same
        exact sound.unissued found before (same ▸ claims)
  granted := by
    intro other rival key lease seated leased seeks
    rcases seated_cases seated with ⟨-, rfl⟩ | ⟨-, beside⟩
    · obtain ⟨before, refused⟩ := sought?_told calls seeks
      have granted := (sound.granted found leased before).1
      rw [answered, refused] at granted
      cases granted
    · exact sound.granted beside leased seeks
  placed issued leased same := by
    rcases issued_cases issued with before | ⟨-, -, ttl, rfl⟩
    · exact sound.placed before leased same
    · obtain ⟨claims, acquisition, acquires, own⟩ := (sound.fits found).sought_of_claim calls
      obtain ⟨-, other, acquired, there⟩ := sound.granted found leased (same ▸ claims)
      cases acquires.symm.trans acquired
      exact there.symm.trans own

theorem Sound.tick (sound : room.Sound) (later : Instant) : { room with now := later }.Sound where
  fits found := (sound.fits found).mono (List.Subset.refl _)
  known := sound.known
  sought := sound.sought
  apart := sound.apart
  drawn := sound.drawn
  unissued := sound.unissued
  once := sound.once
  granted := sound.granted
  placed := sound.placed

theorem Sound.meddle (sound : room.Sound) {store : S} {tokens : List String}
    (apart : ∀ token ∈ tokens, token ∉ room.drawn) (meddles : room.Meddles store tokens) :
    { room with
      lockers := { room.lockers with store := store }
      foreign := tokens ++ room.foreign }.Sound where
  fits found := (sound.fits found).mono (List.Subset.refl _)
  known leased := by
    rcases meddles _ _ leased with mem | ⟨old, before, same, -⟩
    · exact .inr (List.mem_append_left _ mem)
    · exact same ▸ (sound.known before).imp_right (List.mem_append_right _)
  sought := sound.sought
  apart := sound.apart
  drawn := sound.drawn
  unissued := sound.unissued
  once := sound.once
  granted found leased seeks := by
    rcases meddles _ _ leased with mem | ⟨old, before, same, -⟩
    · exact absurd (sound.sought found seeks) (apart _ mem)
    · exact sound.granted found before (same ▸ seeks)
  placed issued leased same := by
    rcases meddles _ _ leased with mem | ⟨old, before, own, -⟩
    · exact absurd (sound.drawn issued) (same ▸ apart _ mem)
    · exact sound.placed issued before (own.trans same)

end Cloakroom

end Coedit.Lock
