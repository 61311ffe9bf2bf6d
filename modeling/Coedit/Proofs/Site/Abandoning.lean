import Coedit.Proofs.Site.Closing

/-!
# Giving an operation up

What is left behind by an operation that is given up half-way while the store answers every
call.  All tokens of its earlier attempts have been given back by then.  The one under which
it holds its key is given back if its body runs; before and after its body, nobody does it.
-/

namespace Coedit

open Lease

variable {S α ε : Type}

namespace Operation

variable {operation : Operation α ε}

/-- An operation that goes for its key does not hold it until the store has granted it. -/
theorem holds?_of_claim {key token : String} {ttl : Duration}
    (need : operation.need? = some (.lock (.call (.claim key token ttl)))) :
    operation.phase.holds? none = none ∧
      operation.phase.holds? (some (.ok true)) = some token := by
  unfold need? at need
  cases phase : operation.phase <;> simp only [phase] at need
  case acquiring acquisition =>
      have need : acquisition.need? = some (.call (.claim key token ttl)) := by
        simpa using need
      unfold Lock.Acquisition.need? at need
      cases inner : acquisition.phase <;> simp only [inner] at need <;> cases need
      case taking attempt => simp [Phase.holds?, inner, Lock.Phase.holds?]
  all_goals cases need

/-- An operation that is given up goes no further, unless it had ended before. -/
theorem phase_abandon_of_token? {token : String} (goes : operation.phase.token? = some token) :
    operation.abandon.2.phase = .abandoned := by
  unfold abandon
  cases phase : operation.phase <;> simp [phase, Phase.token?] at goes ⊢

/-- An operation gives back no key but its own. -/
theorem key_of_revoke {key token : String} (sound : operation.Sound)
    (need : operation.need? = some (.lock (.call (.revoke key token)))) :
    key = operation.plan.key := by
  unfold need? at need
  cases phase : operation.phase <;> simp only [phase] at need
  case acquiring acquisition =>
      have need : acquisition.need? = some (.call (.revoke key token)) := by
        simpa using need
      exact (Lock.Acquisition.key_of_revoke need).1.trans (sound acquisition phase).1
  case releasing held ending =>
      cases need
      rfl
  all_goals cases need

end Operation

/-! ## Where a token is -/

namespace Lock.Lockers

variable [Store S]

/-- No lease and no locker comes by a token. -/
structure Bars [Lawful S] (lockers after : Lockers S) (token : String) : Prop where
  lease {key : String} {lease : Entry} (found : Lawful.lease? after.store key = some lease)
    (own : lease.token = token) : Lawful.lease? lockers.store key = some lease
  keeps {service : LockerId} (keeps : after.Keeps service token) : lockers.Keeps service token

/-- No lease carries a token, and no locker remembers it. -/
structure Free [Lawful S] (lockers : Lockers S) (token : String) : Prop where
  unleased {key : String} {lease : Entry} (found : Lawful.lease? lockers.store key = some lease) :
    lease.token ≠ token
  forgotten (service : LockerId) : ¬ lockers.Keeps service token

/-- A token is at one key, on behalf of one locker, or nowhere. -/
structure OnlyAt [Lawful S] (lockers : Lockers S) (key : String) (locker : LockerId)
    (token : String) : Prop where
  lease {other : String} {lease : Entry}
    (found : Lawful.lease? lockers.store other = some lease) (own : lease.token = token) :
    other = key
  keeps {other : LockerId} (keeps : lockers.Keeps other token) : other = locker

variable [Lawful S] {lockers after : Lockers S} {id : LockerId} {key token : String}

theorem Bars.refl (lockers : Lockers S) (token : String) : lockers.Bars lockers token :=
  ⟨fun found _ => found, fun keeps => keeps⟩

theorem Free.onward (free : lockers.Free token) (bars : lockers.Bars after token) :
    after.Free token :=
  ⟨fun found own => free.unleased (bars.lease found own) own,
    fun service keeps => free.forgotten service (bars.keeps keeps)⟩

theorem OnlyAt.onward (only : lockers.OnlyAt key id token) (bars : lockers.Bars after token) :
    after.OnlyAt key id token :=
  ⟨fun found own => only.lease (bars.lease found own) own, fun keeps => only.keeps (bars.keeps keeps)⟩

variable {failure : Option StoreError} {now : Instant} {call : Call}

/-- A token comes into the store only if it is claimed and granted. -/
theorem bars_of_call (foreign : (lockers.call id failure now call).1 = .ok true →
    ∀ key ttl, call ≠ .claim key token ttl) :
    lockers.Bars (lockers.call id failure now call).2 token := by
  constructor
  · intro key lease found own
    rcases call_origin rfl found with before | ⟨granted, ttl, claimed⟩
    · exact before
    · exact absurd (own ▸ claimed) (foreign granted key ttl)
  · intro service keeps
    rcases keeps_of_call keeps with before | ⟨-, granted, key, ttl, claimed⟩
    · exact before
    · exact absurd claimed (foreign granted key ttl)

/-- A token that was free is at the key for which it is claimed. -/
theorem onlyAt_of_claim (free : lockers.Free token) {ttl : Duration} :
    (lockers.call id failure now (.claim key token ttl)).2.OnlyAt key id token := by
  constructor
  · intro other lease found own
    rcases call_origin rfl found with before | ⟨-, ttl, claimed⟩
    · exact absurd own (free.unleased before)
    · cases claimed
      rfl
  · intro other keeps
    rcases keeps_of_call keeps with before | ⟨same, -⟩
    · exact absurd before (free.forgotten other)
    · exact same

omit [Lawful S] in
/-- A locker forgets a token once it is told that it has been given back. -/
theorem forgets_of_revoke {value : Bool}
    (answered : (lockers.call id failure now (.revoke key token)).1 = .ok value) :
    ¬ (lockers.call id failure now (.revoke key token)).2.Keeps id token := by
  rintro ⟨locker, held, found, kept⟩
  simp only [call, Table.get?_modify, if_true] at found answered
  obtain ⟨before, -, rfl⟩ := Option.map_eq_some_iff.mp found
  simp only [answered, Locker.record, Table.get?_erase_self] at kept
  cases kept

/-- What is found of a token where it has been given back has ended. -/
theorem ended_of_revoke {value : Bool} {lease : Entry}
    (answered : (lockers.call id failure now (.revoke key token)).1 = .ok value)
    (found : Lawful.lease? (lockers.call id failure now (.revoke key token)).2.store key =
      some lease) (own : lease.token = token) : lease.hasEnded now = true := by
  have made : lockers.call id failure now (.revoke key token) =
      (.ok value, (lockers.call id failure now (.revoke key token)).2) := Prod.ext answered rfl
  rcases call_cases made with ⟨error, failed, -⟩ | answer
  · cases failed
  · cases value with
    | true =>
        rw [(Lawful.revoke_removed answer).2] at found
        cases found
    | false =>
        obtain ⟨ended, kept⟩ := Lawful.revoke_refused answer
        exact ended lease (kept ▸ found) own

/-- A token that is given back is free, if its lease has lasted until then. -/
theorem free_of_revoke (only : lockers.OnlyAt key id token) {ends : Instant} {value : Bool}
    (lease : Lawful.lease? lockers.store key = some ⟨token, ends⟩)
    (live : Entry.hasEnded ⟨token, ends⟩ now = false)
    (answered : (lockers.call id failure now (.revoke key token)).1 = .ok value) :
    (lockers.call id failure now (.revoke key token)).2.Free token := by
  have bars : lockers.Bars (lockers.call id failure now (.revoke key token)).2 token :=
    bars_of_call fun _ _ _ => nofun
  constructor
  · intro other rest found own
    have before := bars.lease found own
    obtain rfl := only.lease before own
    cases lease.symm.trans before
    have ended := ended_of_revoke answered found own
    simp [live] at ended
  · intro other keeps
    obtain rfl := only.keeps (bars.keeps keeps)
    exact forgets_of_revoke answered keeps

end Lock.Lockers

namespace Site

variable {site after : Site S α ε} {move : Move α ε} {id : OperationId} {token : String}

/-- Whether an answer that is on its way tells of a failure. -/
def Entry.hasFailed (entry : Entry α ε) : Bool :=
  match entry.reply with
  | some (.error _) => true
  | _ => false

/-- Whether the store has answered every call whose answer is on its way. -/
def IsServed (site : Site S α ε) : Prop :=
  ∀ entry ∈ site.operations.entries, entry.2.hasFailed = false

instance (site : Site S α ε) : Decidable site.IsServed :=
  inferInstanceAs (Decidable (∀ entry ∈ site.operations.entries, entry.2.hasFailed = false))

theorem IsServed.answered (served : site.IsServed) {entry : Entry α ε} {reply : Reply}
    (found : site.operations.get? id = some entry) (answer : entry.reply = some reply) :
    ∃ value, reply = .ok value := by
  have fine := served (id, entry) (Table.get?_eq_some_iff.mp found)
  cases reply with
  | ok value => exact ⟨value, rfl⟩
  | error error => simp [Entry.hasFailed, answer] at fine

theorem isServed_iff : site.IsServed ↔
    ∀ id entry, site.operations.get? id = some entry → entry.hasFailed = false := by
  constructor
  · intro served id entry found
    exact served (id, entry) (Table.get?_eq_some_iff.mp found)
  · intro served entry member
    exact served entry.1 entry.2 (Table.get?_eq_some_iff.mpr member)

variable [Store S]

/-- Either a call takes effect for an operation, or nothing happens. -/
theorem perform_cases (site : Site S α ε) (id : OperationId) (failure : Option StoreError)
    (now : Instant) : site.perform id failure now = site ∨
      ∃ entry call, site.operations.get? id = some entry ∧
        entry.operation.need? = some (.lock (.call call)) ∧
        ∀ other, (site.perform id failure now).operations.get? other =
          if id = other then
            some { entry with reply := some (site.lockers.call entry.service failure now call).1 }
          else site.operations.get? other := by
  by_cases idle : ∀ entry call, site.operations.get? id = some entry →
      entry.operation.need? = some (.lock (.call call)) → entry.reply ≠ none
  · exact .inl (perform_of_no_need idle failure now)
  · have : ∃ entry call, site.operations.get? id = some entry ∧
        entry.operation.need? = some (.lock (.call call)) ∧ entry.reply = none := by
      simpa using idle
    obtain ⟨entry, call, found, need, unanswered⟩ := this
    exact .inr ⟨entry, call, found, need, (perform_of_need found need unanswered failure now).2.2⟩

/-- A store that answers has answered once the call of an operation has taken effect. -/
theorem IsServed.perform (served : site.IsServed) {now : Instant}
    (works : ∀ call, ∃ value, (Store.call site.lockers.store now call).1 = .ok value) :
    (site.perform id none now).IsServed := by
  rcases site.perform_cases id none now with same | ⟨entry, call, -, -, operations⟩
  · rw [same]
    exact served
  · refine isServed_iff.mpr fun other later found => ?_
    rw [operations] at found
    split at found
    · cases found
      obtain ⟨value, answered⟩ := works call
      have reply : (site.lockers.call entry.service none now call).1 = .ok value := answered
      simp [Entry.hasFailed, reply]
    · exact isServed_iff.mp served other later found

/-- An operation whose body runs has made no call. -/
theorem perform_of_running {entry : Entry α ε} {failure : Option StoreError} {now : Instant}
    (found : (site.perform id failure now).operations.get? id = some entry)
    (running : entry.IsRunning) : site.perform id failure now = site := by
  rcases site.perform_cases id failure now with same | ⟨before, call, -, need, operations⟩
  · exact same
  · rw [operations, if_pos rfl] at found
    cases found
    obtain ⟨token, phase⟩ := running
    simp only at phase
    simp [Operation.need?, phase] at need

variable [Lawful S]

/-- A token of an operation is where the operation holds its key under it, or is free. -/
inductive Stands (site : Site S α ε) (id : OperationId) (token : String) : Prop where
  | free (free : site.lockers.Free token)
  | held {entry : Entry α ε} (found : site.operations.get? id = some entry)
      (holds : entry.holds? = some token)
      (only : site.lockers.OnlyAt entry.key entry.service token)

/-- A token stays where it is as long as nobody claims it and its operation keeps its
hold. -/
theorem Stands.onward (stands : site.Stands id token)
    (bars : site.lockers.Bars after.lockers token)
    (same : ∀ entry, site.operations.get? id = some entry → entry.holds? = some token →
      ∃ later, after.operations.get? id = some later ∧ later.holds? = some token ∧
        later.key = entry.key ∧ later.service = entry.service) : after.Stands id token := by
  cases stands with
  | free free => exact .free (free.onward bars)
  | held found holds only =>
      obtain ⟨later, foundLater, holdsLater, key, service⟩ := same _ found holds
      exact .held foundLater holdsLater (key ▸ service ▸ only.onward bars)

variable {lost : String → Prop}

/-- An operation goes on with a call of its own. -/
theorem ExclusiveBut.stands_performed (exclusive : site.ExclusiveBut lost)
    (stands : site.Stands id token) (kept : ¬ lost token) {entry : Entry α ε}
    {failure : Option StoreError} {now : Instant} {call : Call}
    (found : site.operations.get? id = some entry)
    (need : entry.operation.need? = some (.lock (.call call))) (unanswered : entry.reply = none)
    (lasts : site.Lasts now) (served : after.IsServed)
    (lockers : after.lockers = (site.lockers.call entry.service failure now call).2)
    (foundLater : after.operations.get? id =
      some { entry with reply := some (site.lockers.call entry.service failure now call).1 }) :
    after.Stands id token := by
  obtain ⟨value, answered⟩ := served.answered foundLater rfl
  have sound := exclusive.sound found
  cases call with
  | check key =>
      have bars : site.lockers.Bars after.lockers token :=
        lockers ▸ Lock.Lockers.bars_of_call fun _ _ _ claims => by cases claims
      refine stands.onward bars fun same foundSame holds => ?_
      cases found.symm.trans foundSame
      refine ⟨_, foundLater, ?_, rfl, rfl⟩
      rw [Entry.holds?, unanswered] at holds
      rw [Entry.holds?, Operation.holds?_of_check need, holds]
  | claim key own ttl =>
      obtain ⟨notYet, granted⟩ := Operation.holds?_of_claim need
      cases stands with
      | held foundSame holds only =>
          cases found.symm.trans foundSame
          rw [Entry.holds?, unanswered, notYet] at holds
          cases holds
      | free free =>
          by_cases same : own = token ∧ value = true
          · obtain ⟨rfl, rfl⟩ := same
            refine .held foundLater ?_ ?_
            · rw [Entry.holds?, answered, granted]
            · obtain ⟨rfl, -⟩ := Operation.key_of_claim sound.operation need
              rw [lockers]
              exact Lock.Lockers.onlyAt_of_claim free
          · refine .free (free.onward (lockers ▸ Lock.Lockers.bars_of_call ?_))
            rintro granted _ _ ⟨⟩
            rw [answered] at granted
            cases granted
            exact same ⟨rfl, rfl⟩
  | revoke key own =>
      have holds := (Operation.holds?_of_revoke need).1
      obtain rfl := Operation.key_of_revoke sound.operation need
      cases stands with
      | free free =>
          have bars : site.lockers.Bars after.lockers token :=
            lockers ▸ Lock.Lockers.bars_of_call fun _ _ _ claims => by cases claims
          exact .free (free.onward bars)
      | held foundSame holdsSame only =>
          cases found.symm.trans foundSame
          rw [Entry.holds?, unanswered, holds] at holdsSame
          cases holdsSame
          have holding : entry.holds? = some token := by rw [Entry.holds?, unanswered, holds]
          obtain ⟨ends, lease⟩ := exclusive.covered found holding kept
          have live := lasts id entry ⟨token, ends⟩ found holding lease
          exact .free (lockers ▸ Lock.Lockers.free_of_revoke only lease live answered)

/-- A token comes into the store only on behalf of the operation that goes by it, or as it
is drawn. -/
theorem ExclusiveBut.bars (exclusive : site.ExclusiveBut lost) (effect : site.Effect move after)
    (undrawn : move.drawn? ≠ some token ∨ after.operations ≠ site.operations)
    (foreign : ∀ other entry failure now, site.operations.get? other = some entry →
      entry.token? = some token → move ≠ .perform other failure now) :
    site.lockers.Bars after.lockers token := by
  cases effect with
  | nothing _ lockers _ => exact lockers ▸ .refl ..
  | added _ lockers _ => exact lockers ▸ .refl ..
  | called operations lockers _ =>
      refine lockers ▸ Lock.Lockers.bars_of_call ?_
      rintro - key ttl rfl
      rcases undrawn with undrawn | moved
      · exact undrawn rfl
      · exact moved operations
  | asked _ lockers _ =>
      constructor
      · intro key lease found _
        rw [lockers] at found
        exact (Lawful.timeLeft_unchanged rfl _).symm.trans found
      · intro service keeps
        rw [lockers] at keeps
        exact keeps
  | changed found follows _ _ =>
      generalize after.lockers = lockers at follows
      cases follows with
      | performed need unanswered =>
          refine Lock.Lockers.bars_of_call ?_
          rintro - key ttl rfl
          have own := Operation.token?_of_claim (exclusive.sound found).operation need
          exact foreign _ _ _ _ found own rfl
      | resumed => exact .refl ..
      | bodyEnded => exact .refl ..
      | cancelled => exact .refl ..

omit [Lawful S] in
/-- Only the store begins a hold or ends it. -/
theorem Entry.Follows.holds? {entry later : Entry α ε} {lockers lockersAfter : Lock.Lockers S}
    (follows : entry.Follows lockers id move later lockersAfter) (sound : entry.Sound)
    (still : ∀ failure now, move ≠ .perform id failure now) :
    later.holds? = entry.holds? ∧ later.key = entry.key := by
  cases follows with
  | performed need unanswered => exact absurd rfl (still _ _)
  | resumed => exact ⟨holds?_resumed sound _, by rw [Entry.key, plan_resumed, Entry.key]⟩
  | bodyEnded => exact ⟨holds?_bodyEnded sound _, by rw [Entry.key, plan_bodyEnded, Entry.key]⟩
  | cancelled => exact ⟨holds?_cancelled, by rw [Entry.key, plan_cancelled, Entry.key]⟩

/-- The tokens of an operation stay accounted for, whatever else happens. -/
theorem ExclusiveBut.stands (exclusive : site.ExclusiveBut lost) (effect : site.Effect move after)
    (permitted : site.Permits move) (stands : site.Stands id token) (kept : ¬ lost token)
    (undrawn : move.drawn? ≠ some token)
    (owned : ∀ other entry, site.operations.get? other = some entry →
      entry.token? = some token → other = id) (served : after.IsServed) :
    after.Stands id token := by
  by_cases own : ∃ failure now, move = .perform id failure now
  · obtain ⟨failure, now, rfl⟩ := own
    cases effect with
    | nothing operations lockers _ =>
        refine stands.onward (lockers ▸ .refl ..) fun entry found holds => ?_
        exact ⟨entry, operations ▸ found, holds, rfl, rfl⟩
    | added operations lockers _ =>
        refine stands.onward (lockers ▸ .refl ..) fun entry found holds =>
          ⟨entry, ?_, holds, rfl, rfl⟩
        rw [operations, Table.get?_insert, if_neg (Nat.ne_of_gt (exclusive.numbered found)), found]
    | changed found follows operations _ =>
        generalize lockers : after.lockers = lockersAfter at follows
        cases follows with
        | performed need unanswered =>
            exact exclusive.stands_performed stands kept found need unanswered permitted served
              lockers (by rw [operations, if_pos rfl])
  · have bars : site.lockers.Bars after.lockers token := by
      refine exclusive.bars effect (.inl undrawn) ?_
      rintro other entry failure now found goes rfl
      obtain rfl := owned other entry found goes
      exact own ⟨failure, now, rfl⟩
    refine stands.onward bars fun entry found holds => ?_
    obtain ⟨later, foundLater, rfl | follows⟩ := exclusive.onward effect found
    · exact ⟨later, foundLater, holds, rfl, rfl⟩
    · obtain ⟨holdsLater, key⟩ :=
        follows.holds? (exclusive.sound found) fun failure now same => own ⟨failure, now, same⟩
      exact ⟨later, foundLater, holdsLater.trans holds, key, follows.service⟩

end Site

namespace House

variable [Store S] [Lawful S] {house after : House S α ε} {id : OperationId}
  {tokens : List String}

/-! ## The tokens of an operation -/

/-- The token an operation goes by. -/
def tokenOf (house : House S α ε) (id : OperationId) : Option String :=
  (house.site.operations.get? id).bind Site.Entry.token?

/-- A run on which the store answers every call, with the tokens an operation has gone by. -/
inductive Trace (start : House S α ε) (id : OperationId) : List String → House S α ε → Prop where
  | start : Trace start id [] start
  | move {tokens : List String} {house : House S α ε} {move : Move α ε}
      (trace : Trace start id tokens house) (permitted : house.Permits move)
      (served : (house.after move).site.IsServed) :
      Trace start id (((house.after move).tokenOf id).toList ++ tokens) (house.after move)

/-- What is so of the tokens an operation has gone by. -/
structure Trail (house : House S α ε) (id : OperationId) (tokens : List String) : Prop where
  current {token : String} (goes : house.tokenOf id = some token) : token ∈ tokens
  drawn {token : String} (member : token ∈ tokens) : token ∈ house.drawn
  owned {token : String} (member : token ∈ tokens) {other : OperationId}
    {entry : Site.Entry α ε} (found : house.site.operations.get? other = some entry)
    (own : entry.token? = some token) : other = id
  stands {token : String} (member : token ∈ tokens) : house.site.Stands id token

/-- Whether every lease is one for which a token was drawn. -/
def IsDrawn (house : House S α ε) : Prop :=
  ∀ key lease, Lawful.lease? house.site.lockers.store key = some lease →
    lease.token ∈ house.drawn

omit [Store S] [Lawful S] in
theorem tokenOf_eq_some_iff {token : String} :
    house.tokenOf id = some token ↔
      ∃ entry, house.site.operations.get? id = some entry ∧ entry.token? = some token :=
  Option.bind_eq_some_iff

/-- A token that nobody has drawn yet stays out of the store, unless it is drawn now by
somebody who takes a lock by hand. -/
theorem Orderly.bars (orderly : house.Orderly) (effect : house.Effect after) (id : OperationId)
    {token : String} (undrawn : token ∉ house.drawn)
    (late : token ∉ after.drawn ∨ after.tokenOf id = some token) :
    house.site.lockers.Bars after.site.lockers token := by
  cases orderly.atSite effect with
  | moved effect permitted fresh swept =>
      refine orderly.exclusive.bars effect ?_ fun _ _ _ _ found goes _ =>
        undrawn (orderly.tokens.token found goes)
      rcases late with never | goes
      · exact .inl fun drawn => never (fresh _ drawn).2
      · right
        intro same
        obtain ⟨later, found, own⟩ := tokenOf_eq_some_iff.mp goes
        rw [same] at found
        exact undrawn (orderly.tokens.token found own)
  | dropped site swept =>
      rw [site, (Site.lockers_abandon _ _).1]
      exact .refl ..
  | swept site lasts swept =>
      rw [site]
      exact Lock.Lockers.bars_of_call fun _ _ _ => nofun

theorem Orderly.isDrawn_after (orderly : house.Orderly) (leases : house.IsDrawn)
    (effect : house.Effect after) : after.IsDrawn := by
  intro key lease found
  by_cases drawn : lease.token ∈ after.drawn
  · exact drawn
  · have foreign : lease.token ∉ house.drawn := fun before => drawn (effect.drawn before)
    have bars := orderly.bars effect 0 foreign (.inl drawn)
    exact absurd (leases key lease (bars.lease found rfl)) foreign

/-- Whether an operation has been given up. -/
def IsAbandoned (house : House S α ε) (id : OperationId) : Prop :=
  ∃ entry, house.site.operations.get? id = some entry ∧ entry.operation.phase = .abandoned

theorem Orderly.abandoned (orderly : house.Orderly) (effect : house.Effect after)
    (abandoned : house.IsAbandoned id) : after.IsAbandoned id := by
  obtain ⟨entry, found, phase⟩ := abandoned
  obtain ⟨_, turns, _⟩ := orderly.turns effect
  obtain ⟨later, foundLater, -, stays⟩ := turns.onward found
  exact ⟨later, foundLater, (stays (by simp [Operation.hasEnded, phase])).trans phase⟩

/-- A token that nobody has drawn yet is free. -/
theorem Orderly.free (orderly : house.Orderly) (leases : house.IsDrawn) {token : String}
    (undrawn : token ∉ house.drawn) : house.site.lockers.Free token :=
  ⟨fun found own => undrawn (own ▸ leases _ _ found),
    fun _ keeps => undrawn (orderly.tokens.keeps keeps).1⟩

/-- A token an operation comes by has just been drawn. -/
theorem Trail.undrawn (trail : house.Trail id tokens) (orderly : house.Orderly)
    (effect : house.Effect after) {token : String} (goes : after.tokenOf id = some token)
    (new : token ∉ tokens) : token ∉ house.drawn := by
  obtain ⟨later, found, own⟩ := tokenOf_eq_some_iff.mp goes
  obtain ⟨drawn?, turns, fresh⟩ := orderly.turns effect
  rcases turns.token found own with drawn | ⟨entry, foundEntry, -, ownEntry⟩
  · exact (fresh token drawn).1
  · exact absurd (trail.current (tokenOf_eq_some_iff.mpr ⟨entry, foundEntry, ownEntry⟩)) new

/-- A token of an operation that is not given up stays where it is, or is given back. -/
theorem Trail.stands_after (trail : house.Trail id tokens) (orderly : house.Orderly)
    (effect : house.Effect after) (served : after.site.IsServed) (unswept : after.swept = [])
    (spared : ¬ after.IsAbandoned id) {token : String} (member : token ∈ tokens) :
    after.site.Stands id token := by
  have stands := trail.stands member
  cases orderly.atSite effect with
  | moved effect permitted fresh swept =>
      refine orderly.exclusive.stands effect permitted stands ?_
        (fun new => (fresh token new).1 (trail.drawn member))
        (fun _ _ found own => trail.owned member found own) served
      rintro ⟨service, key, given⟩
      rw [← swept, unswept] at given
      cases given
  | @dropped other site swept =>
      have lockers : after.site.lockers = house.site.lockers := by
        rw [site, (Site.lockers_abandon _ _).1]
      refine stands.onward (lockers ▸ .refl ..) fun entry found holds => ?_
      have later : after.site.operations.get? id =
          if other = id then some entry.abandoned else some entry := by
        rw [site, Site.get?_abandon, found]
        split
        · next same => rw [same, found, Option.map_some]
        · rfl
      split at later
      · have goes := Site.Entry.token?_of_holds? holds
        exact absurd ⟨_, later, Operation.phase_abandon_of_token? goes⟩ spared
      · exact ⟨entry, later, holds, rfl, rfl⟩
  | swept site lasts swept => simp [swept] at unswept

theorem Trail.onward (trail : house.Trail id tokens) (orderly : house.Orderly)
    (leases : house.IsDrawn) (effect : house.Effect after) (inOrder : after.Orderly)
    (served : after.site.IsServed) (unswept : after.swept = [])
    (spared : ¬ after.IsAbandoned id) : after.Trail id ((after.tokenOf id).toList ++ tokens) := by
  refine ⟨fun goes => ?_, fun {token} member => ?_, fun {token} member other later found own => ?_,
    fun {token} member => ?_⟩
  · exact List.mem_append_left _ (Option.mem_toList.mpr goes)
  all_goals rcases List.mem_append.mp member with new | old
  · obtain ⟨entry, found, own⟩ := tokenOf_eq_some_iff.mp (Option.mem_toList.mp new)
    exact inOrder.tokens.token found own
  · exact effect.drawn (trail.drawn old)
  · obtain ⟨entry, foundEntry, ownEntry⟩ := tokenOf_eq_some_iff.mp (Option.mem_toList.mp new)
    exact inOrder.exclusive.distinct found own foundEntry ownEntry
  · obtain ⟨entry, foundEntry, -, ownEntry⟩ := orderly.owner effect (trail.drawn old) found own
    exact trail.owned old foundEntry ownEntry
  · have goes := Option.mem_toList.mp new
    by_cases old : token ∈ tokens
    · exact trail.stands_after orderly effect served unswept spared old
    · have undrawn := trail.undrawn orderly effect goes old
      exact .free ((orderly.free leases undrawn).onward (orderly.bars effect id undrawn (.inr goes)))
  · exact trail.stands_after orderly effect served unswept spared old

theorem swept_of_after (orderly : house.Orderly) (effect : house.Effect after)
    (unswept : after.swept = []) : house.swept = [] := by
  cases orderly.atSite effect with
  | moved _ _ _ swept => exact swept ▸ unswept
  | dropped _ swept => exact swept ▸ unswept
  | swept _ _ swept => simp [swept] at unswept

/-- On a run on which no shutdown gives locks back, the tokens of an operation are accounted
for until it is given up. -/
theorem Trace.trail {site : Site S α ε} (trace : Trace (opened site) id tokens house)
    (new : site.IsNew) (bare : ∀ key, Lawful.lease? site.lockers.store key = none) :
    house.Orderly ∧ house.IsDrawn ∧
      (house.swept = [] → ¬ house.IsAbandoned id → house.Trail id tokens) := by
  induction trace with
  | start =>
      refine ⟨orderly_opened new, fun key lease found => ?_, fun _ _ =>
        ⟨fun goes => ?_, nofun, nofun, nofun⟩⟩
      · simp [opened, bare] at found
      · simp [tokenOf, opened, new.operations] at goes
  | move trace permitted served ih =>
      obtain ⟨orderly, leases, trail⟩ := ih
      have effect := effect_after orderly.accounts permitted
      have inOrder := orderly.step permitted
      refine ⟨inOrder, orderly.isDrawn_after leases effect, fun unswept spared => ?_⟩
      have before := trail (swept_of_after orderly effect unswept)
        fun abandoned => spared (orderly.abandoned effect abandoned)
      exact before.onward orderly leases effect inOrder served unswept spared

/-! ## What an operation leaves behind -/

/-- The house once the call that an operation waits for has taken effect. -/
def asked (house : House S α ε) (id : OperationId) (now : Instant) : House S α ε :=
  { house with site := house.site.perform id none now }

/-- The house once an operation has been given up: what it has asked of the store is done
all the same, and then what is left to do for it. -/
def givenUp (house : House S α ε) (id : OperationId) (now : Instant) : House S α ε :=
  ((house.asked id now).after (.drop id)).after (.settle house.debts.length none now)

omit [Lawful S] in
/-- Nothing is done for an operation whose body does not run. -/
theorem lockers_givenUp {entry : Site.Entry α ε} {now : Instant}
    (found : (house.asked id now).site.operations.get? id = some entry)
    (still : ¬ entry.IsRunning) :
    (house.givenUp id now).site.lockers = (house.asked id now).site.lockers := by
  have nothing : ((house.asked id now).site.abandon id).1 = none := by
    cases left : ((house.asked id now).site.abandon id).1 with
    | none => rfl
    | some debt =>
        obtain ⟨same, token, foundSame, -, -, running⟩ := Site.running_of_abandon left
        cases found.symm.trans foundSame
        exact absurd ⟨token, running⟩ still
  have debts : (house.asked id now).debts = house.debts := rfl
  simp [givenUp, House.after, nothing, debts, (Site.lockers_abandon (house.asked id now).site id).1]

omit [Lawful S] in
/-- The lock is given back for an operation whose body runs. -/
theorem lockers_givenUp_of_running {entry : Site.Entry α ε} {token : String} {now : Instant}
    (found : (house.asked id now).site.operations.get? id = some entry)
    (running : entry.operation.phase = .running token) :
    (house.givenUp id now).site.lockers = ((house.asked id now).site.lockers.call entry.service
      none now (.revoke entry.key token)).2 := by
  have left : ((house.asked id now).site.abandon id).1 =
      some (entry.service, .revoke entry.key token) := by
    simp [Site.abandon, found, Operation.abandon, running, Site.Entry.key]
  have debts : (house.asked id now).debts = house.debts := rfl
  simp [givenUp, House.after, left, debts, Site.after,
    (Site.lockers_abandon (house.asked id now).site id).1]

theorem effect_asked {now : Instant} (lasts : house.site.Lasts now) :
    house.Effect (house.asked id now) := by
  have permitted : house.site.Permits (.perform id none now) := lasts
  exact Effect.moved rfl permitted (by simp [Site.Move.drawn?])

omit [Lawful S] in
/-- An operation goes by one token until the answer to its call arrives. -/
theorem tokenOf_asked (house : House S α ε) (id : OperationId) (now : Instant) :
    (house.asked id now).tokenOf id = house.tokenOf id := by
  unfold tokenOf asked
  rcases house.site.perform_cases id none now with same | ⟨entry, call, found, -, operations⟩
  · rw [same]
  · rw [operations, if_pos rfl, found]
    rfl

/-- The tokens of an operation are accounted for when its last call has taken effect. -/
theorem Trace.asked {site : Site S α ε} (trace : Trace (opened site) id tokens house)
    (new : site.IsNew) (bare : ∀ key, Lawful.lease? site.lockers.store key = none)
    (unswept : house.swept = []) {now : Instant} (spared : ¬ (house.asked id now).IsAbandoned id)
    (lasts : house.site.Lasts now)
    (works : ∀ call, ∃ value, (Store.call house.site.lockers.store now call).1 = .ok value) :
    (house.asked id now).Orderly ∧ (house.asked id now).Trail id tokens := by
  obtain ⟨orderly, leases, trail⟩ := trace.trail new bare
  have effect : house.Effect (house.asked id now) := effect_asked lasts
  have inOrder := orderly.onward effect
  have served : house.site.IsServed := by
    cases trace with
    | start => simp [Site.IsServed, opened, new.operations, Table.empty]
    | move _ _ served => exact served
  have before := trail unswept fun abandoned => spared (orderly.abandoned effect abandoned)
  have later := before.onward orderly leases effect inOrder (served.perform works) unswept spared
  have listed {token : String} (member : token ∈ tokens) :
      token ∈ ((house.asked id now).tokenOf id).toList ++ tokens := List.mem_append_right _ member
  refine ⟨inOrder, fun goes => ?_, fun member => later.drawn (listed member),
    fun member => later.owned (listed member), fun member => later.stands (listed member)⟩
  exact before.current (tokenOf_asked house id now ▸ goes)

/-- Nothing is left of an operation that does not hold its key, or whose body runs. -/
theorem Trail.free_of_givenUp {now : Instant} (trail : (house.asked id now).Trail id tokens)
    (orderly : (house.asked id now).Orderly) (unswept : house.swept = [])
    {entry : Site.Entry α ε}
    (found : (house.asked id now).site.operations.get? id = some entry)
    (lasts : house.site.Lasts now)
    (works : ∀ call, ∃ value, (Store.call house.site.lockers.store now call).1 = .ok value)
    (clean : entry.holds? = none ∨ entry.IsRunning) {token : String} (member : token ∈ tokens) :
    (house.givenUp id now).site.lockers.Free token := by
  have stands := trail.stands member
  by_cases running : entry.IsRunning
  · have same : (house.asked id now).site = house.site := Site.perform_of_running found running
    obtain ⟨own, phase⟩ := running
    rw [lockers_givenUp_of_running found phase]
    cases stands with
    | free free => exact free.onward (Lock.Lockers.bars_of_call fun _ _ _ => nofun)
    | held foundSame holds only =>
        cases found.symm.trans foundSame
        have goes : own = token := by
          simpa [Site.Entry.holds?, phase, Operation.Phase.holds?] using holds
        subst goes
        have unlost : ¬ (house.asked id now).IsLost own := by
          rintro ⟨service, key, given⟩
          simp [House.asked, unswept] at given
        obtain ⟨ends, lease⟩ := orderly.exclusive.covered found holds unlost
        rw [← same] at lasts works
        obtain ⟨value, answered⟩ := works (.revoke entry.key own)
        exact Lock.Lockers.free_of_revoke only lease (lasts id entry _ found holds lease) answered
  · rw [lockers_givenUp found running]
    cases stands with
    | free free => exact free
    | held foundSame holds only =>
        cases found.symm.trans foundSame
        rw [clean.resolve_right running] at holds
        cases holds

/-- On a store that answers every call, an operation that is given up leaves no lease behind
just if it did not hold its key, once its last call has taken effect, or its body ran.  Then
no locker remembers a token of it either, unless it was waiting for an answer. -/
theorem Trace.unleased_iff {site : Site S α ε} (trace : Trace (opened site) id tokens house)
    (new : site.IsNew) (bare : ∀ key, Lawful.lease? site.lockers.store key = none)
    (unswept : house.swept = []) {now : Instant} {entry : Site.Entry α ε}
    (found : (house.asked id now).site.operations.get? id = some entry)
    (spared : entry.operation.phase ≠ .abandoned) (lasts : house.site.Lasts now)
    (works : ∀ call, ∃ value, (Store.call house.site.lockers.store now call).1 = .ok value) :
    ((∀ token ∈ tokens, ∀ key lease,
        Lawful.lease? (house.givenUp id now).site.lockers.store key = some lease →
          lease.token ≠ token) ↔ entry.holds? = none ∨ entry.IsRunning) ∧
      (entry.reply = none → entry.holds? = none ∨ entry.IsRunning →
        ∀ token ∈ tokens, ∀ service, ¬ (house.givenUp id now).site.lockers.Keeps service token) := by
  have spared : ¬ (house.asked id now).IsAbandoned id := fun ⟨same, foundSame, phase⟩ => by
    cases found.symm.trans foundSame
    exact spared phase
  obtain ⟨orderly, trail⟩ := trace.asked new bare unswept spared lasts works
  have free (clean : entry.holds? = none ∨ entry.IsRunning) {token : String}
      (member : token ∈ tokens) : (house.givenUp id now).site.lockers.Free token :=
    trail.free_of_givenUp orderly unswept found lasts works clean member
  refine ⟨⟨fun clean => ?_, fun clean token member key lease => (free clean member).unleased⟩,
    fun _ clean token member => (free clean member).forgotten⟩
  by_cases running : entry.IsRunning
  · exact .inr running
  · left
    cases holds : entry.holds? with
    | none => rfl
    | some token =>
        have unlost : ¬ (house.asked id now).IsLost token := by
          rintro ⟨service, key, given⟩
          simp [House.asked, unswept] at given
        obtain ⟨ends, lease⟩ := orderly.exclusive.covered found holds unlost
        have member := trail.current
          (tokenOf_eq_some_iff.mpr ⟨entry, found, Site.Entry.token?_of_holds? holds⟩)
        rw [lockers_givenUp found running] at clean
        exact absurd rfl (clean token member entry.key _ lease)

/-- Whether each of some moves is permitted, and the store answers its call. -/
def WorksAll (house : House S α ε) : List (Move α ε) → Prop
  | [] => True
  | move :: moves =>
      house.Permits move ∧ (house.after move).site.IsServed ∧ (house.after move).WorksAll moves

instance decidableWorksAll (house : House S α ε) :
    (moves : List (Move α ε)) → Decidable (house.WorksAll moves)
  | [] => .isTrue trivial
  | move :: moves =>
      have := decidableWorksAll (house.after move) moves
      inferInstanceAs (Decidable (house.Permits move ∧ (house.after move).site.IsServed ∧
        (house.after move).WorksAll moves))

theorem Trace.exists_of_moves {start : House S α ε} {moves : List (Move α ε)}
    (trace : Trace start id tokens house) (works : house.WorksAll moves) :
    ∃ tokens, Trace start id tokens (house.afterAll moves) := by
  induction moves generalizing house tokens with
  | nil => exact ⟨tokens, trace⟩
  | cons move moves ih => exact ih (trace.move works.1 works.2.1) works.2.2

/-- A service is shut down while a batch holds its workspace and waits for a document that
somebody else works on; the task of the batch is ended. -/
def lingering : List (Move Nat Unit) :=
  [.site (.enter 1 (.document ⟨"w", "d"⟩) none)] ++ getting 0 ("a", "b", "c") ++
    [.submit 0 (.workspace "w" ["d"]) none, .begin 0] ++ getting 1 ("d", "e", "f") ++
    [.shutDown 0, .look 0, .giveUp 0]

/-- The batch holds its key, its body does not run, and it leaves its lease behind. -/
theorem Trace.unleased_iff_lingering :
    ∃ tokens, Trace (opened Site.pair) 1 tokens ((opened Site.pair).afterAll lingering) ∧
      1 ∈ ((opened Site.pair).afterAll lingering).aborted ∧
      ¬ ∀ token ∈ tokens, ∀ key lease, Lawful.lease?
        (((opened Site.pair).afterAll lingering).givenUp 1 ⟨5⟩).site.lockers.store key =
          some lease → lease.token ≠ token := by
  have works : (opened Site.pair).WorksAll lingering := by decide +kernel
  have new : Site.pair.IsNew := ((Site.isNew_create _).addService _ _ _ rfl).addService _ _ _ rfl
  obtain ⟨tokens, trace⟩ := Trace.start.exists_of_moves works
  have lasts : ((opened Site.pair).afterAll lingering).site.Lasts ⟨5⟩ := by decide +kernel
  have found : (((opened Site.pair).afterAll lingering).asked 1 ⟨5⟩).site.operations.get? 1 =
    some _ := rfl
  have exactly := (trace.unleased_iff new (fun _ => rfl) rfl found
    (by rintro ⟨⟩) lasts (Memory.answers _ _)).1
  refine ⟨tokens, trace, by decide +kernel, fun unleased => ?_⟩
  rcases exactly.mp unleased with free | ⟨token, running⟩
  · cases free
  · cases running

end House

end Coedit
