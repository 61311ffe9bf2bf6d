import Coedit.Proofs.Lock.Returning
import Mathlib.Data.List.Basic

/-!
# The books of a cloakroom

Whoever gives something back removes at most the lease that carries the token of the hold in
question, and only once; a locker remembers just the holds it has issued and has not been
answered about; and when it has given back everything while nobody sought a key through it,
nothing of it is left.
-/

namespace Coedit.Lock

open Lease

namespace Cloakroom

variable {S : Type} {room after : Cloakroom S} {id : ClientId} {client : Client}
  {member : LockerId} {locker : Locker} {hold : Hold} {call : Call} {reply : Reply}
  {key token : String} {lease : Entry} {moment : Moment}

/-- The holds a locker has issued. -/
def issuedOf (room : Cloakroom S) (member : LockerId) : List Hold :=
  (room.issued.filter fun entry => entry.1 = member).map Prod.snd

/-- The holds a locker has issued for which a call to give them back, made by itself, was
answered. -/
def settledOf (room : Cloakroom S) (member : LockerId) : List Hold :=
  (room.issuedOf member).filter fun hold => (member, hold.token) ∈ room.settled

theorem mem_issuedOf : hold ∈ room.issuedOf member ↔ (member, hold) ∈ room.issued := by
  rw [issuedOf, List.mem_map]
  constructor
  · rintro ⟨⟨owner, hold⟩, mem, rfl⟩
    obtain ⟨issued, own⟩ := List.mem_filter.mp mem
    obtain rfl : owner = member := of_decide_eq_true own
    exact issued
  · intro issued
    exact ⟨(member, hold), List.mem_filter.mpr ⟨issued, decide_eq_true rfl⟩, rfl⟩

/-- Whoever claims a key is still seeking it. -/
theorem Fits.seeks_of_claim (fits : room.Fits client) {ttl : Duration}
    (calls : client.chore.call? = some (.claim key token ttl)) : client.seeks = true := by
  obtain ⟨-, acquisition, acquires, -⟩ := fits.sought_of_claim calls
  obtain ⟨locker, chore, told⟩ := client
  obtain rfl : chore = .acquiring acquisition := acquires
  have need := Chore.call?_acquiring.mp calls
  unfold Client.seeks Acquisition.result?
  unfold Acquisition.need? at need
  cases phase : acquisition.phase <;> simp only [phase] at need ⊢ <;> cases need
  rfl

/-! ## Giving back everything -/

/-- Whether nobody seeks a key through a locker, and the store answers the calls of a
client. -/
def IsCalm (room : Cloakroom S) (member : LockerId) (id : ClientId) : Prop :=
  (∀ other client, room.clients other = some client → client.locker = member →
    client.seeks = false) ∧
  ∀ client error, room.clients id = some client → client.reply ≠ some (.error error)

/-- Whether what a locker remembers is still to be given back by one of its clients. -/
def Sweeps (room : Cloakroom S) (member : LockerId) (id : ClientId) : Prop :=
  ∃ left removed reply locker,
    room.clients id = some ⟨member, .sweeping left removed, reply⟩ ∧
      room.lockers.members.get? member = some locker ∧
        ∀ token key, locker.held.get? token = some key → Call.revoke key token ∈ left

/-- The cloakroom once a locker has begun to give back everything. -/
def sweep (room : Cloakroom S) (member : LockerId) (locker : Locker) (id : ClientId) :
    Cloakroom S :=
  room.seat id ⟨member, .sweeping locker.revocations 0, none⟩

theorem sweeps_sweep (found : room.lockers.members.get? member = some locker) (id : ClientId) :
    (room.sweep member locker id).Sweeps member id := by
  refine ⟨locker.revocations, 0, none, locker, Function.update_self .., found, ?_⟩
  intro token key held
  exact List.mem_map.mpr ⟨(token, key), Table.get?_eq_some_iff.mp held, rfl⟩

/-- Others at other seats do not disturb. -/
theorem Sweeps.elsewhere (sweeps : room.Sweeps member id)
    (clients : after.clients id = room.clients id)
    (members : after.lockers.members = room.lockers.members) : after.Sweeps member id := by
  obtain ⟨left, removed, reply, locker, found, inside, remembers⟩ := sweeps
  exact ⟨left, removed, reply, locker, clients.trans found, members ▸ inside, remembers⟩

/-- Answers that grant nothing to a locker leave it remembering no more than before. -/
theorem held_tell_of_not_grants (other : ClientId) (client : Client) (call : Call)
    (reply : Reply) (moment : Moment) (found : room.lockers.members.get? member = some locker)
    (refused : member = client.locker → ∀ token key, ¬ Grants call reply key token) :
    ∃ later, (room.tell other client call reply moment).lockers.members.get? member = some later ∧
      ∀ token key, later.held.get? token = some key →
        locker.held.get? token = some key ∧
          ¬ (member = client.locker ∧ Settles call reply token) := by
  have present : ∃ later,
      (room.tell other client call reply moment).lockers.members.get? member = some later := by
    refine ⟨if client.locker = member then locker.record call reply else locker,
      (Table.get?_modify ..).trans ?_⟩
    rw [found]
    split <;> rfl
  obtain ⟨later, there⟩ := present
  obtain ⟨before, here, held⟩ := held_tell there
  cases found.symm.trans here
  refine ⟨later, there, ?_⟩
  intro token key remembered
  rcases (held token key).mp remembered with ⟨own, grants⟩ | ⟨kept, unsettled⟩
  · exact absurd grants (refused own token key)
  · exact ⟨kept, fun settles => unsettled ⟨settles.1, .inr settles.2⟩⟩

/-- What was just given back need not be given back again. -/
theorem Sweeps.answered {left : List Call} {removed : Nat} {told : Option Reply}
    (inside : room.lockers.members.get? member = some locker)
    (remembers : ∀ token key, locker.held.get? token = some key → Call.revoke key token ∈ left)
    (next : left.head? = some (.revoke key token)) (value : Bool) (moment : Moment) :
    (room.tell id ⟨member, .sweeping left removed, told⟩ (.revoke key token) (.ok value)
      moment).Sweeps member id := by
  obtain ⟨later, there, remembered⟩ := held_tell_of_not_grants id
    ⟨member, .sweeping left removed, told⟩ (.revoke key token) (.ok value) moment inside
    (by rintro - token key ⟨-, ttl, ⟨⟩⟩)
  refine ⟨left.tail, _, none, later, Function.update_self .., there, ?_⟩
  intro other name held
  obtain ⟨before, unsettled⟩ := remembered other name held
  have mem := remembers other name before
  rw [← List.cons_head?_tail next, List.mem_cons] at mem
  rcases mem with head | tail
  · cases head
    exact absurd ⟨rfl, ⟨value, rfl⟩, key, rfl⟩ unsettled
  · exact tail

variable [Store S] [Lawful S]

/-! ## Removing a lease -/

/-- A call that gives a token back removes no other lease than that of the token. -/
theorem spares_of_revoke (failure : Option StoreError) {target : String}
    (leased : room.lease? key = some lease) :
    (room.perform id client failure (.revoke target token)).lease? key = some lease ∨
      (room.attempt failure (.revoke target token)).1 = .ok true ∧ key = target ∧
        lease.token = token := by
  cases failure with
  | some error => exact .inl leased
  | none =>
      by_cases same : key = target
      · subst same
        rcases answered : (room.attempt none (.revoke key token)).1 with error | _ | _
        · exact .inl ((Lawful.failed_unchanged (Prod.ext answered rfl) key).trans leased)
        · exact .inl ((Lawful.revoke_refused (call_of_attempt answered)).2.trans leased)
        · obtain ⟨old, found, own, -⟩ := (Lawful.revoke_removed (call_of_attempt answered)).1
          cases leased.symm.trans found
          exact .inr ⟨rfl, rfl, own⟩
      · have other : key ≠ (Call.revoke target token).key := same
        exact .inl ((Lawful.others_unchanged rfl key other).trans leased)

/-! ## Counting -/

/-- A locker remembers just what it has issued and has not been answered about. -/
theorem Kept.heldCount (kept : room.Kept)
    (found : room.lockers.members.get? member = some locker) :
    locker.heldCount + (room.settledOf member).length = (room.issuedOf member).length := by
  have once : ((room.issuedOf member).map Hold.token).Nodup := by
    rw [issuedOf, List.map_map]
    exact kept.sound.once.sublist (List.filter_sublist.map _)
  have distinct : locker.held.keys.Nodup := locker.held.nodup
  have remembered : locker.held.keys.Perm (((room.issuedOf member).filter fun hold =>
      !decide ((member, hold.token) ∈ room.settled)).map Hold.token) := by
    rw [List.perm_ext_iff_of_nodup distinct (once.sublist (List.filter_sublist.map _))]
    intro token
    rw [Table.keys, List.mem_map, List.mem_map]
    constructor
    · rintro ⟨⟨token, key⟩, entry, rfl⟩
      obtain ⟨⟨hold, issued, -, same⟩, unsettled⟩ :=
        (kept.held found token key).mp (Table.get?_eq_some_iff.mpr entry)
      exact ⟨hold, List.mem_filter.mpr ⟨mem_issuedOf.mpr issued, by simpa [same] using unsettled⟩,
        same⟩
    · rintro ⟨hold, mem, rfl⟩
      obtain ⟨issued, unsettled⟩ := List.mem_filter.mp mem
      have held := (kept.held found hold.token hold.key).mpr
        ⟨⟨hold, mem_issuedOf.mp issued, rfl, rfl⟩, by simpa using unsettled⟩
      exact ⟨(hold.token, hold.key), Table.get?_eq_some_iff.mp held, rfl⟩
  have counted := remembered.length_eq
  rw [List.length_map] at counted
  have split := List.length_eq_length_filter_add (l := room.issuedOf member)
    fun hold => decide ((member, hold.token) ∈ room.settled)
  rw [split, ← counted, Nat.add_comm, settledOf, Table.keys, List.length_map]
  rfl

/-- A locker that has issued a hold remembers it while a live lease carries its token. -/
theorem Kept.tracked (kept : room.Kept)
    (found : room.lockers.members.get? member = some locker)
    (issued : hold ∈ room.issuedOf member) (leased : room.lease? key = some lease)
    (own : lease.token = hold.token) (live : lease.hasEnded room.now = false) :
    key = hold.key ∧ locker.held.get? hold.token = some hold.key := by
  have issued := mem_issuedOf.mp issued
  refine ⟨kept.sound.placed issued leased own, ?_⟩
  rw [kept.held found]
  refine ⟨⟨hold, issued, rfl, rfl⟩, ?_⟩
  intro past
  have ended := (kept.settled past).2 key lease leased own
  rw [live] at ended
  cases ended

/-- A release that has ended has ended for good. -/
theorem Leads.released_stays {removed : Bool}
    (found : room.clients id = some ⟨member, .released hold removed, none⟩)
    (leads : room.Leads after) : after.clients id = some ⟨member, .released hold removed, none⟩ := by
  induction leads with
  | refl => exact found
  | tail _ step ih =>
      -- a seat that is taken is not free, and a release that has ended makes no call
      cases step with
      | acquire key guard maxWait free => exact (Function.update_of_ne (by grind) _ _).trans ih
      | release member free => exact (Function.update_of_ne (by grind) _ _).trans ih
      | releaseAll free => exact (Function.update_of_ne (by grind) _ _).trans ih
      | perform failure seated calls =>
          exact (Function.update_of_ne (by grind [Chore.call?]) _ _).trans ih
      | tell moment seated calls =>
          exact (Function.update_of_ne (by grind [Chore.call?]) _ _).trans ih
      | rest seated => exact (Function.update_of_ne (by grind) _ _).trans ih
      | tick => exact ih
      | meddle => exact ih

/-- What a locker remembers is given back, one by one, while the store answers. -/
theorem Sweeps.step (sweeps : room.Sweeps member id) (kept : room.Kept)
    (calm : room.IsCalm member id) (step : Step room after) : after.Sweeps member id := by
  obtain ⟨left, removed, reply, locker, found, inside, remembers⟩ := sweeps
  have sweeps : room.Sweeps member id :=
    ⟨left, removed, reply, locker, found, inside, remembers⟩
  cases step with
  | acquire key guard maxWait free =>
      exact sweeps.elsewhere (Function.update_of_ne (by grind) _ _) rfl
  | release other free => exact sweeps.elsewhere (Function.update_of_ne (by grind) _ _) rfl
  | releaseAll free => exact sweeps.elsewhere (Function.update_of_ne (by grind) _ _) rfl
  | rest seated => exact sweeps.elsewhere (Function.update_of_ne (by grind) _ _) rfl
  | tick => exact sweeps
  | meddle => exact sweeps
  | @perform other client call failure seated calls waiting =>
      by_cases same : id = other
      · subst same
        cases found.symm.trans seated
        exact ⟨left, removed, _, locker, Function.update_self .., inside, remembers⟩
      · exact sweeps.elsewhere (Function.update_of_ne same _ _) rfl
  | @tell other client call told moment seated calls answered =>
      by_cases same : id = other
      · subst same
        cases found.symm.trans seated
        obtain ⟨key, token, rfl, -⟩ := kept.sound.fits seated _ (List.mem_of_head? calls)
        obtain ⟨value, rfl⟩ : ∃ value, told = .ok value := by
          cases told with
          | ok value => exact ⟨value, rfl⟩
          | error error => exact absurd answered (calm.2 _ error seated)
        exact .answered inside remembers calls value moment
      · have refused : member = client.locker → ∀ token key, ¬ Grants call told key token := by
          rintro own token key ⟨rfl, ttl, rfl⟩
          have seeks := (kept.sound.fits seated).seeks_of_claim calls
          rw [calm.1 other client seated own.symm] at seeks
          cases seeks
        obtain ⟨later, there, remembered⟩ :=
          held_tell_of_not_grants other client call told moment inside refused
        refine ⟨left, removed, reply, later, (Function.update_of_ne same _ _).trans found, there,
          ?_⟩
        intro token key held
        exact remembers token key (remembered token key held).1

/-- Any number of steps during which nobody seeks a key through a locker and the store
answers a client. -/
def CalmlyLeads (member : LockerId) (id : ClientId) (room after : Cloakroom S) : Prop :=
  Relation.ReflTransGen (fun before next => Step before next ∧ next.IsCalm member id) room after

/-- When everything was given back, nothing is left. -/
theorem Kept.emptied {removed : Nat} (kept : room.Kept)
    (found : room.lockers.members.get? member = some locker) (free : room.clients id = none)
    (calm : (room.sweep member locker id).IsCalm member id)
    (leads : CalmlyLeads member id (room.sweep member locker id) after)
    (ended : after.clients id = some ⟨member, .sweeping [] removed, none⟩) :
    (∃ later, after.lockers.members.get? member = some later ∧ later.heldCount = 0) ∧
      ∀ hold ∈ after.issuedOf member, after.Gone hold.token := by
  have swept : after.Kept ∧ after.Sweeps member id ∧ after.IsCalm member id := by
    clear ended
    induction leads with
    | refl => exact ⟨kept.step (.releaseAll free found), sweeps_sweep found id, calm⟩
    | tail _ next ih =>
        obtain ⟨kept, sweeps, before⟩ := ih
        exact ⟨kept.step next.1, sweeps.step kept before next.1, next.2⟩
  obtain ⟨kept, ⟨left, count, reply, later, there, inside, remembers⟩, -⟩ := swept
  cases there.symm.trans ended
  have forgotten : later.held.entries = [] := by
    rw [List.eq_nil_iff_forall_not_mem]
    rintro ⟨token, key⟩ entry
    have mem := remembers token key (Table.get?_eq_some_iff.mpr entry)
    cases mem
  refine ⟨⟨later, inside, by rw [Locker.heldCount, Table.size, forgotten]; rfl⟩, ?_⟩
  intro hold issued key lease leased own
  by_contra live
  have tracked := (kept.tracked inside issued leased own (Bool.eq_false_iff.mpr live)).2
  rw [Table.get?_eq_some_iff, forgotten] at tracked
  cases tracked

/-! ## Safety -/

/-- What holds in a cloakroom at any time. -/
structure IsSafe (room : Cloakroom S) : Prop where
  /-- Whoever gives a token back has a hold that was issued for it, and removes no lease but
  that of the token. -/
  spares {id : ClientId} {client : Client} {key token : String}
    (found : room.clients id = some client)
    (calls : client.chore.call? = some (.revoke key token)) (failure : Option StoreError) :
    (∃ owner, room.IssuedBy owner key token) ∧
      ∀ other lease, room.lease? other = some lease →
        (room.perform id client failure (.revoke key token)).lease? other = some lease ∨
          (room.attempt failure (.revoke key token)).1 = .ok true ∧ other = key ∧
            lease.token = token
  /-- Of all releases of a hold at most one has removed its lease, and those that have ended
  stay as they are. -/
  once {id other : ClientId} {member rival : LockerId} {hold copy : Hold}
    (found : room.clients id = some ⟨member, .released hold true, none⟩)
    (beside : room.clients other = some ⟨rival, .released copy true, none⟩)
    (same : hold.token = copy.token) : id = other
  stays {id : ClientId} {member : LockerId} {hold : Hold} {removed : Bool} {after : Cloakroom S}
    (found : room.clients id = some ⟨member, .released hold removed, none⟩)
    (leads : room.Leads after) : after.clients id = some ⟨member, .released hold removed, none⟩
  /-- A locker counts the holds it has issued, less those about which it was answered. -/
  counted {member : LockerId} {locker : Locker}
    (found : room.lockers.members.get? member = some locker) :
    locker.heldCount + (room.settledOf member).length = (room.issuedOf member).length
  /-- While a live lease carries the token of a hold, the locker that issued it remembers it. -/
  tracked {member : LockerId} {locker : Locker} {hold : Hold} {key : String} {lease : Entry}
    (found : room.lockers.members.get? member = some locker)
    (issued : hold ∈ room.issuedOf member) (leased : room.lease? key = some lease)
    (own : lease.token = hold.token) (live : lease.hasEnded room.now = false) :
    key = hold.key ∧ locker.held.get? hold.token = some hold.key
  /-- A locker that gives back everything, while the store answers and nobody seeks a key
  through it, has nothing left in the end, and no live lease carries a token of its holds. -/
  emptied {member : LockerId} {locker : Locker} {id : ClientId} {after : Cloakroom S}
    {removed : Nat} (found : room.lockers.members.get? member = some locker)
    (free : room.clients id = none)
    (calm : (room.sweep member locker id).IsCalm member id)
    (leads : CalmlyLeads member id (room.sweep member locker id) after)
    (ended : after.clients id = some ⟨member, .sweeping [] removed, none⟩) :
    (∃ later, after.lockers.members.get? member = some later ∧ later.heldCount = 0) ∧
      ∀ hold ∈ after.issuedOf member, after.Gone hold.token

/-- Whatever is done through the lockers of a cloakroom, in whatever order, is safe. -/
theorem IsOpened.isSafe {start : Cloakroom S} (opened : start.IsOpened)
    (leads : start.Leads room) : room.IsSafe := by
  have kept := opened.kept.leads leads
  refine ⟨?_, ?_, Leads.released_stays, kept.heldCount, kept.tracked, kept.emptied⟩
  · intro id client key token found calls failure
    exact ⟨(kept.sound.fits found).issued_of_revoke calls,
      fun other lease leased => spares_of_revoke failure leased⟩
  · intro id other member rival hold copy found beside same
    exact kept.once found beside rfl (congrArg some same.symm)

/-! ### A hold that was taken over -/

/-- Two lockers that share a memory. -/
def entrance : Cloakroom Memory where
  now := ⟨0⟩
  lockers := ⟨.empty, (Table.empty.insert 0 ⟨.standard, .empty⟩).insert 1 ⟨.standard, .empty⟩⟩
  clients _ := none
  issued := []
  settled := []
  drawn := []
  foreign := []

theorem isOpened_entrance : entrance.IsOpened := by
  refine ⟨fun _ => rfl, rfl, rfl, rfl, ?_, nofun⟩
  intro member locker found
  have inside : (member, locker) ∈
      [(0, (⟨.standard, .empty⟩ : Locker)), (1, ⟨.standard, .empty⟩)] :=
    Table.get?_eq_some_iff.mp found
  rcases List.mem_pair.mp inside with same | same <;> cases same <;> rfl

/-- Somebody acquires a lock under a token. -/
def visit (room : Cloakroom Memory) (id : ClientId) (member : LockerId) (token : String) :
    Cloakroom Memory :=
  let moment := Moment.at room.now .zero token
  let client : Client :=
    ⟨member, .acquiring (.start "plans" .unguarded .standard .zero moment), none⟩
  let seated := { room.seat id client with drawn := token :: room.drawn }
  seated.exchange id client none (.claim "plans" token Settings.standard.ttl) moment

theorem Leads.visit {start room : Cloakroom Memory} (leads : start.Leads room)
    {held : Table String String} (free : room.clients id = none)
    (found : room.lockers.members.get? member = some ⟨.standard, held⟩)
    (unused : token ∉ room.drawn ∧ token ∉ room.foreign) :
    start.Leads (room.visit id member token) := by
  have fresh : (Moment.at room.now .zero token).token ∉ room.drawn ∧
    (Moment.at room.now .zero token).token ∉ room.foreign := unused
  have seated := leads.step (.acquire "plans" .unguarded .zero free found fresh)
  exact seated.exchange (Function.update_self ..) rfl rfl none _

/-- The first holder's lease has ended, a successor has the key, and the call of the holder
that gives its hold back fails. -/
def overdue : Cloakroom Memory :=
  let late := { entrance.visit 0 0 "one" with now := ⟨31000000000⟩ }
  let client : Client := ⟨0, .releasing ⟨"plans", "one", ⟨0⟩, .ofSecs 30⟩, none⟩
  ((late.visit 1 1 "two").seat 2 client).exchange 2 client (some (.unavailable "timed out"))
    (.revoke "plans" "one") (.at late.now .zero "")

theorem leads_overdue : entrance.Leads overdue := by
  have first : entrance.Leads (entrance.visit 0 0 "one") :=
    Leads.visit .refl rfl rfl ⟨by decide, by decide⟩
  let late : Cloakroom Memory := { entrance.visit 0 0 "one" with now := ⟨31000000000⟩ }
  have passed : entrance.Leads late := first.step (.tick (by decide))
  have second : entrance.Leads (late.visit 1 1 "two") :=
    passed.visit rfl rfl ⟨by decide, by decide⟩
  have issued : (0, ⟨"plans", "one", ⟨0⟩, .ofSecs 30⟩) ∈ (late.visit 1 1 "two").issued := by decide
  have free : (late.visit 1 1 "two").clients 2 = none := rfl
  exact (second.step (.release 0 free issued)).exchange (Function.update_self ..) rfl rfl _ _

/-- What the first locker remembers by then. -/
def debtor : Locker := ⟨.standard, Table.empty.insert "one" "plans"⟩

/-- It gives back everything: the call takes effect, and its answer arrives. -/
def swept : Cloakroom Memory :=
  (overdue.sweep 0 debtor 3).perform 3 ⟨0, .sweeping debtor.revocations 0, none⟩ none
    (.revoke "plans" "one")

def relieved : Cloakroom Memory :=
  swept.tell 3 ⟨0, .sweeping debtor.revocations 0, some (.ok false)⟩ (.revoke "plans" "one")
    (.ok false) (.at overdue.now .zero "")

/-- Nobody else disturbs. -/
theorem isCalm_of_seated {room : Cloakroom Memory} {client : Client}
    (seated : room.clients = Function.update overdue.clients 3 (some client))
    (quiet : client.seeks = false) (answers : ∀ error, client.reply ≠ some (.error error)) :
    room.IsCalm 0 3 := by
  have own : room.clients 3 = some client := by rw [seated, Function.update_self]
  constructor
  · intro other visitor found _
    by_cases last : other = 3
    · subst last
      cases own.symm.trans found
      exact quiet
    · rw [seated, Function.update_of_ne last] at found
      rcases other with _ | _ | _ | _ | _ <;> cases found <;> rfl
  · intro visitor error found
    cases own.symm.trans found
    exact answers error

theorem calmlyLeads_relieved : CalmlyLeads 0 3 (overdue.sweep 0 debtor 3) relieved := by
  have performs : Step (overdue.sweep 0 debtor 3) swept := .perform none rfl rfl rfl
  have tells : Step swept relieved := .tell _ rfl rfl rfl
  have waits : swept.IsCalm 0 3 := by
    refine isCalm_of_seated (Function.update_idem ..) rfl ?_
    rintro error ⟨⟩
  have seated : relieved.clients = Function.update overdue.clients 3
      (some ⟨0, .sweeping debtor.revocations.tail 0, none⟩) := by
    simp only [relieved, tell, swept, perform, sweep, seat, Function.update_idem]
    rfl
  have ends : relieved.IsCalm 0 3 := by
    refine isCalm_of_seated seated rfl ?_
    rintro error ⟨⟩
  exact (Relation.ReflTransGen.single ⟨performs, waits⟩).tail ⟨tells, ends⟩

/-- The locker remembers the hold until it gives back everything, and frees nobody's lock. -/
theorem IsOpened.isSafe_successor :
    entrance.IsOpened ∧ entrance.Leads overdue ∧
      overdue.lockers.members.get? 0 = some debtor ∧
      debtor.heldCount + (overdue.settledOf 0).length = (overdue.issuedOf 0).length ∧
      debtor.heldCount = 1 ∧
      CalmlyLeads 0 3 (overdue.sweep 0 debtor 3) relieved ∧
      (∃ later, relieved.lockers.members.get? 0 = some later ∧ later.heldCount = 0) ∧
      (relieved.lease? "plans").map Entry.token = some "two" := by
  have safe := isOpened_entrance.isSafe leads_overdue
  have found : overdue.lockers.members.get? 0 = some debtor := rfl
  have calm : (overdue.sweep 0 debtor 3).IsCalm 0 3 := by
    refine isCalm_of_seated rfl rfl ?_
    rintro error ⟨⟩
  have emptied := (safe.emptied found rfl calm calmlyLeads_relieved rfl).1
  exact ⟨isOpened_entrance, leads_overdue, found, safe.counted found, rfl, calmlyLeads_relieved,
    emptied, rfl⟩

end Cloakroom

end Coedit.Lock
