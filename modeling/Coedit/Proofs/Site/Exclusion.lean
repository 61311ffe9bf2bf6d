import Coedit.Proofs.Site.Run

/-!
# Mutual exclusion

However the operations of a site interleave, a key is held by at most one of them.
Whoever holds a key is covered by a lease that carries its own token, and no two
operations go by one token; every move of every operation keeps both.
-/

namespace Coedit.Site

open Lease

variable {S α ε : Type} [Store S] [Lawful S]

/-- Whether an operation is between its successful claim of a key and its release. -/
def Holds (site : Site S α ε) (id : OperationId) (key : String) : Prop :=
  ∃ entry token, site.operations.get? id = some entry ∧ entry.key = key ∧
    entry.holds? = some token

/-- Whether the body of an operation runs under a key. -/
def Runs (site : Site S α ε) (id : OperationId) (key : String) : Prop :=
  ∃ entry, site.operations.get? id = some entry ∧ entry.key = key ∧ entry.IsRunning

/-- Every hold is covered by a lease of its own, but for those under tokens whose leases
have been given away. -/
structure ExclusiveBut (lost : String → Prop) (site : Site S α ε) : Prop where
  numbered {id : OperationId} {entry : Entry α ε}
    (found : site.operations.get? id = some entry) : id < site.nextOperation
  sound {id : OperationId} {entry : Entry α ε}
    (found : site.operations.get? id = some entry) : entry.Sound
  distinct {id other : OperationId} {entry rival : Entry α ε} {token : String}
    (found : site.operations.get? id = some entry) (own : entry.token? = some token)
    (rivalFound : site.operations.get? other = some rival)
    (shared : rival.token? = some token) : id = other
  covered {id : OperationId} {entry : Entry α ε} {token : String}
    (found : site.operations.get? id = some entry) (holds : entry.holds? = some token)
    (kept : ¬ lost token) :
    ∃ ends, Lawful.lease? site.lockers.store entry.key = some ⟨token, ends⟩

/-- Every hold is covered by a lease of its own. -/
abbrev Exclusive (site : Site S α ε) : Prop := site.ExclusiveBut fun _ => False

variable {site after : Site S α ε} {move : Move α ε}

namespace Exclusive

omit [Store S] [Lawful S] in
theorem holds_of_runs {id : OperationId} {key : String} (runs : site.Runs id key) :
    site.Holds id key := by
  obtain ⟨entry, found, keyEqual, token, phase⟩ := runs
  exact ⟨entry, token, found, keyEqual, by simp [Entry.holds?, phase, Operation.Phase.holds?]⟩

theorem covered (exclusive : site.Exclusive) {id : OperationId} {entry : Entry α ε}
    {token : String} (found : site.operations.get? id = some entry)
    (holds : entry.holds? = some token) :
    ∃ ends, Lawful.lease? site.lockers.store entry.key = some ⟨token, ends⟩ :=
  ExclusiveBut.covered exclusive found holds not_false

end Exclusive

namespace ExclusiveBut

variable {lost : String → Prop}

/-- Two holds of one key are covered by one lease. -/
theorem eq_of_holds (exclusive : site.ExclusiveBut lost) {id other : OperationId}
    {entry rival : Entry α ε} {token rivalToken : String}
    (found : site.operations.get? id = some entry) (held : entry.holds? = some token)
    (kept : ¬ lost token) (rivalFound : site.operations.get? other = some rival)
    (rivalHeld : rival.holds? = some rivalToken) (rivalKept : ¬ lost rivalToken)
    (same : rival.key = entry.key) : id = other := by
  obtain ⟨ends, lease⟩ := exclusive.covered found held kept
  obtain ⟨rivalEnds, rivalLease⟩ := exclusive.covered rivalFound rivalHeld rivalKept
  rw [same, lease] at rivalLease
  cases rivalLease
  exact exclusive.distinct found (Entry.token?_of_holds? held) rivalFound
    (Entry.token?_of_holds? rivalHeld)

theorem start (fresh : site.operations = .empty) : site.ExclusiveBut lost := by
  constructor
  all_goals
    intros
    simp_all

/-- A site with the same operations whose store still covers them, but for those whose
leases have now been given away as well. -/
theorem transfer (exclusive : site.ExclusiveBut lost) {wider : String → Prop}
    (widened : ∀ {token}, lost token → wider token)
    (operations : after.operations = site.operations)
    (next : after.nextOperation = site.nextOperation)
    (kept : ∀ {id entry token ends}, site.operations.get? id = some entry →
      entry.holds? = some token → ¬ wider token →
      Lawful.lease? site.lockers.store entry.key = some ⟨token, ends⟩ →
      Lawful.lease? after.lockers.store entry.key = some ⟨token, ends⟩) :
    after.ExclusiveBut wider := by
  constructor
  · intro id entry found
    rw [next]
    exact exclusive.numbered (operations ▸ found)
  · intro id entry found
    exact exclusive.sound (operations ▸ found)
  · intro id other entry rival token found own rivalFound shared
    exact exclusive.distinct (operations ▸ found) own (operations ▸ rivalFound) shared
  · intro id entry token found holds unlost
    rw [operations] at found
    obtain ⟨ends, lease⟩ := exclusive.covered found holds fun gone => unlost (widened gone)
    exact ⟨ends, kept found holds unlost lease⟩

/-- An operation that has not begun neither holds a key nor goes by a token. -/
theorem added (exclusive : site.ExclusiveBut lost) {service : ServiceId} {plan : Plan}
    {settings : Lock.Settings} {maxWait : Duration}
    (operations : after.operations =
      site.operations.insert site.nextOperation ⟨service, .create plan settings maxWait, none⟩)
    (lockers : after.lockers = site.lockers)
    (next : after.nextOperation = site.nextOperation + 1) : after.ExclusiveBut lost := by
  have cases : ∀ {id entry}, after.operations.get? id = some entry →
      (id = site.nextOperation ∧ entry = ⟨service, .create plan settings maxWait, none⟩) ∨
        site.operations.get? id = some entry := by
    intro id entry found
    rw [operations, Table.get?_insert] at found
    grind
  constructor
  · intro id entry found
    rw [next]
    rcases cases found with ⟨rfl, -⟩ | found
    · exact Nat.lt_succ_self _
    · exact Nat.lt_succ_of_lt (exclusive.numbered found)
  · intro id entry found
    rcases cases found with ⟨-, rfl⟩ | found
    · exact Entry.sound_create ..
    · exact exclusive.sound found
  · intro id other entry rival token found own rivalFound shared
    rcases cases found with ⟨-, rfl⟩ | found
    · cases own
    rcases cases rivalFound with ⟨-, rfl⟩ | rivalFound
    · cases shared
    exact exclusive.distinct found own rivalFound shared
  · intro id entry token found holds unlost
    rcases cases found with ⟨-, rfl⟩ | found
    · cases holds
    rw [lockers]
    exact exclusive.covered found holds unlost

/-- A change of one operation keeps the invariant if the store covers the changed
operation and all others, and the only new token is one nobody goes by. -/
theorem changed (exclusive : site.ExclusiveBut lost) {id : OperationId} {entry changed : Entry α ε}
    (found : site.operations.get? id = some entry)
    (operations : ∀ other, after.operations.get? other =
      if id = other then some changed else site.operations.get? other)
    (next : after.nextOperation = site.nextOperation) (sound : changed.Sound)
    (tokens : ∀ token, changed.token? = some token →
      entry.token? = some token ∨ site.IsFresh token)
    (covered : ∀ token, changed.holds? = some token → ¬ lost token →
      ∃ ends, Lawful.lease? after.lockers.store changed.key = some ⟨token, ends⟩)
    (kept : ∀ {other rival token ends}, id ≠ other →
      site.operations.get? other = some rival → rival.holds? = some token →
      Lawful.lease? site.lockers.store rival.key = some ⟨token, ends⟩ →
      Lawful.lease? after.lockers.store rival.key = some ⟨token, ends⟩) :
    after.ExclusiveBut lost := by
  have foreign : ∀ {other rival token}, id ≠ other → site.operations.get? other = some rival →
      rival.token? = some token → changed.token? ≠ some token := by
    intro other rival token apart rivalFound shared own
    rcases tokens token own with old | fresh
    · exact apart (exclusive.distinct found old rivalFound shared)
    · exact fresh other rival rivalFound shared
  constructor
  · intro other rival rivalFound
    rw [operations] at rivalFound
    rw [next]
    split at rivalFound
    · next same => exact same ▸ exclusive.numbered found
    · exact exclusive.numbered rivalFound
  · intro other rival rivalFound
    rw [operations] at rivalFound
    split at rivalFound
    · cases rivalFound
      exact sound
    · exact exclusive.sound rivalFound
  · intro left right leftEntry rightEntry token leftFound own rightFound shared
    rw [operations] at leftFound rightFound
    split at leftFound <;> split at rightFound
    · next same equal => exact same.symm.trans equal
    · next same apart =>
        cases leftFound
        exact absurd own (foreign apart rightFound shared)
    · next apart same =>
        cases rightFound
        exact absurd shared (foreign apart leftFound own)
    · exact exclusive.distinct leftFound own rightFound shared
  · intro other rival token rivalFound holds unlost
    rw [operations] at rivalFound
    split at rivalFound
    · cases rivalFound
      exact covered token holds unlost
    · next apart =>
        obtain ⟨ends, lease⟩ := exclusive.covered rivalFound holds unlost
        exact ⟨ends, kept apart rivalFound holds lease⟩

/-- The lease of a held key survives every call that does not give it back. -/
theorem lease_kept {id : OperationId} {entry : Entry α ε} {service : ServiceId}
    {failure : Option StoreError} {now : Instant} {call : Call} {token : String} {ends : Instant}
    (lasts : site.Lasts now) (found : site.operations.get? id = some entry)
    (holds : entry.holds? = some token)
    (lease : Lawful.lease? site.lockers.store entry.key = some ⟨token, ends⟩)
    (foreign : call ≠ .revoke entry.key token) :
    Lawful.lease? (site.lockers.call service failure now call).2.store entry.key =
      some ⟨token, ends⟩ := by
  have live := lasts id entry ⟨token, ends⟩ found holds lease
  exact Lock.Lockers.call_kept rfl lease live foreign

/-- The store covers an operation whose call it has just answered. -/
theorem performed_covered (exclusive : site.ExclusiveBut lost) {id : OperationId} {entry : Entry α ε}
    {failure : Option StoreError} {now : Instant} {call : Call} {token : String}
    (lasts : site.Lasts now) (found : site.operations.get? id = some entry)
    (need : entry.operation.need? = some (.lock (.call call))) (unanswered : entry.reply = none)
    (holds : entry.operation.phase.holds?
      (some (site.lockers.call entry.service failure now call).1) = some token)
    (kept : ¬ lost token) :
    ∃ ends, Lawful.lease? (site.lockers.call entry.service failure now call).2.store entry.key =
      some ⟨token, ends⟩ := by
  cases call with
  | claim key own ttl =>
      obtain ⟨keyEqual, granted⟩ :=
        Operation.key_of_claim (exclusive.sound found).operation need
      obtain ⟨answer, rfl⟩ := granted _ _ holds
      have made : site.lockers.call entry.service failure now (.claim key token ttl) =
          (.ok true, (site.lockers.call entry.service failure now (.claim key token ttl)).2) :=
        Prod.ext answer rfl
      rcases Lock.Lockers.call_cases made with ⟨error, failed, -⟩ | answered
      · cases failed
      · obtain ⟨ends, lease⟩ := (Lawful.claim_granted answered).2
        exact ⟨ends, by rw [Entry.key, ← keyEqual, lease]⟩
  | revoke key own =>
      rw [(Operation.holds?_of_revoke need).2] at holds
      cases holds
  | check key =>
      have held : entry.holds? = some token := by
        rw [Entry.holds?, unanswered, ← Operation.holds?_of_check need _, holds]
      obtain ⟨ends, lease⟩ := exclusive.covered found held kept
      exact ⟨ends, lease_kept lasts found held lease (by simp)⟩

/-- The store still covers everybody else. -/
theorem performed_kept (exclusive : site.ExclusiveBut lost) {id other : OperationId}
    {entry rival : Entry α ε} {failure : Option StoreError} {now : Instant} {call : Call}
    {token : String} {ends : Instant} (lasts : site.Lasts now)
    (found : site.operations.get? id = some entry)
    (need : entry.operation.need? = some (.lock (.call call))) (unanswered : entry.reply = none)
    (apart : id ≠ other) (rivalFound : site.operations.get? other = some rival)
    (holds : rival.holds? = some token)
    (lease : Lawful.lease? site.lockers.store rival.key = some ⟨token, ends⟩) :
    Lawful.lease? (site.lockers.call entry.service failure now call).2.store rival.key =
      some ⟨token, ends⟩ := by
  apply lease_kept lasts rivalFound holds lease
  rintro rfl
  have held : entry.holds? = some token := by
    rw [Entry.holds?, unanswered]
    exact (Operation.holds?_of_revoke need).1
  exact apart (exclusive.distinct found (Entry.token?_of_holds? held) rivalFound
    (Entry.token?_of_holds? holds))

/-- Every permitted move keeps the invariant. -/
theorem step (exclusive : site.ExclusiveBut lost) (permitted : site.Permits move)
    (effect : site.Effect move after) : after.ExclusiveBut lost := by
  cases effect with
  | nothing operations lockers next =>
      exact exclusive.transfer id operations next fun _ _ _ lease => by rw [lockers, lease]
  | added operations lockers next => exact exclusive.added operations lockers next
  | called operations lockers next =>
      rename_i service call failure now
      refine exclusive.transfer id operations next fun found holds _ lease => ?_
      rw [lockers]
      cases call with
      | claim key token ttl => exact lease_kept permitted.1 found holds lease (by simp)
      | revoke key token =>
          refine lease_kept permitted.1 found holds lease ?_
          rintro ⟨⟩
          exact permitted.2 ⟨_, _, found, holds⟩
      | check key => exact lease_kept permitted found holds lease (by simp)
  | asked operations lockers next =>
      refine exclusive.transfer id operations next fun _ _ _ lease => ?_
      rw [lockers]
      exact (Lawful.timeLeft_unchanged rfl _).trans lease
  | changed found follows operations next =>
      rename_i id entry changed
      have sound := exclusive.sound found
      generalize lockers : after.lockers = lockersAfter at follows
      cases follows with
      | performed need unanswered =>
          refine exclusive.changed found operations next ⟨sound.operation, fun _ => ⟨_, need⟩⟩
            (fun _ own => .inl own) (fun token holds kept => ?_)
            fun apart rivalFound holds lease => ?_
          · rw [lockers]
            exact exclusive.performed_covered permitted found need unanswered holds kept
          · rw [lockers]
            exact exclusive.performed_kept permitted found need unanswered apart rivalFound
              holds lease
      | resumed =>
          refine exclusive.changed found operations next (Entry.sound_resumed sound _)
            (fun token own => ?_) (fun token holds kept => ?_) fun _ _ _ lease => by rw [lockers, lease]
          · rcases Entry.token?_resumed own with old | rfl
            · exact .inl old
            · exact .inr permitted
          · rw [Entry.holds?_resumed sound] at holds
            rw [lockers, Entry.key, Entry.plan_resumed]
            exact exclusive.covered found holds kept
      | bodyEnded =>
          refine exclusive.changed found operations next (Entry.sound_bodyEnded sound _)
            (fun token own => .inl (Entry.token?_bodyEnded _ ▸ own)) (fun token holds kept => ?_)
            fun _ _ _ lease => by rw [lockers, lease]
          rw [Entry.holds?_bodyEnded sound] at holds
          rw [lockers, Entry.key, Entry.plan_bodyEnded]
          exact exclusive.covered found holds kept
      | cancelled =>
          refine exclusive.changed found operations next (Entry.sound_cancelled sound)
            (fun token own => .inl (Entry.token?_cancelled ▸ own)) (fun token holds kept => ?_)
            fun _ _ _ lease => by rw [lockers, lease]
          rw [Entry.holds?_cancelled] at holds
          rw [lockers, Entry.key, Entry.plan_cancelled]
          exact exclusive.covered found holds kept

/-- No operation is lost: each stays as it is, or goes on as the move says. -/
theorem onward (exclusive : site.ExclusiveBut lost) (effect : site.Effect move after)
    {id : OperationId} {entry : Entry α ε} (found : site.operations.get? id = some entry) :
    ∃ later, after.operations.get? id = some later ∧
      (later = entry ∨ entry.Follows site.lockers id move later after.lockers) := by
  cases effect with
  | nothing operations _ _ => exact ⟨entry, operations ▸ found, .inl rfl⟩
  | called operations _ _ => exact ⟨entry, operations ▸ found, .inl rfl⟩
  | asked operations _ _ => exact ⟨entry, operations ▸ found, .inl rfl⟩
  | added operations _ _ =>
      refine ⟨entry, ?_, .inl rfl⟩
      rw [operations, Table.get?_insert, if_neg (Nat.ne_of_gt (exclusive.numbered found)), found]
  | changed target follows operations _ =>
      rw [operations]
      split
      · next same =>
          subst same
          cases found.symm.trans target
          exact ⟨_, rfl, .inr follows⟩
      · exact ⟨entry, found, .inl rfl⟩

end ExclusiveBut

/-- Two holds of one key are covered by one lease. -/
theorem Exclusive.holder_unique (exclusive : site.Exclusive) {key : String}
    {id other : OperationId} (holds : site.Holds id key) (rivalHolds : site.Holds other key) :
    id = other := by
  obtain ⟨entry, token, found, rfl, held⟩ := holds
  obtain ⟨rival, rivalToken, rivalFound, keyEqual, rivalHeld⟩ := rivalHolds
  exact exclusive.eq_of_holds found held not_false rivalFound rivalHeld not_false keyEqual

variable {start site : Site S α ε} {path : List (Site S α ε × Move α ε)}

/-- Every site that a run reaches is exclusive. -/
theorem Run.exclusive (run : Run start path site) (fresh : start.operations = .empty) :
    site.Exclusive := by
  induction run with
  | start => exact .start fresh
  | move run permitted ih => exact ih.step permitted (effect_after _)

/-- Mutual exclusion: at most one operation is between its claim of a key and its
release, and no two bodies ever run under one key. -/
theorem Run.mutual_exclusion (run : Run start path site) (fresh : start.operations = .empty) :
    (∀ key id other, site.Holds id key → site.Holds other key → id = other) ∧
      ∀ key id other, site.Runs id key → site.Runs other key → id = other := by
  have exclusive := run.exclusive fresh
  constructor
  · intro key id other holds rivalHolds
    exact exclusive.holder_unique holds rivalHolds
  · intro key id other runs rivalRuns
    exact exclusive.holder_unique (Exclusive.holds_of_runs runs)
      (Exclusive.holds_of_runs rivalRuns)

/-- Two services that share a memory of leases. -/
def pair : Site Memory Nat Unit :=
  ((create .empty).addService 0 ⟨.standard, .empty⟩ .standard).addService 1
    ⟨.standard, .empty⟩ .standard

/-- Each service goes for the same document, and the first one's body runs. -/
def race : List (Move Nat Unit) :=
  [.enter 0 (.document ⟨"w", "d"⟩) none, .enter 1 (.document ⟨"w", "d"⟩) none,
    .resume 0 (.at ⟨0⟩ .zero "first"), .resume 1 (.at ⟨0⟩ .zero "second"),
    .perform 0 none ⟨1⟩, .perform 1 none ⟨2⟩, .resume 0 (.at ⟨3⟩ .zero "third"),
    .resume 1 (.at ⟨3⟩ .zero "third"), .perform 0 none ⟨4⟩, .resume 0 (.at ⟨5⟩ .zero "third")]

/-- After the race nobody but the first runs under the key of the document. -/
theorem Run.mutual_exclusion_race :
    (pair.afterAll race).Runs 0 "doc:w:d" ∧
      ∀ other, (pair.afterAll race).Holds other "doc:w:d" → other = 0 := by
  have permitted : pair.PermitsAll race := by decide
  obtain ⟨path, run⟩ := Run.start.exists_of_moves permitted
  have runs : (pair.afterAll race).Runs 0 "doc:w:d" := ⟨_, rfl, rfl, _, rfl⟩
  refine ⟨runs, fun other holds => ?_⟩
  exact (run.mutual_exclusion rfl).1 _ _ _ holds (Exclusive.holds_of_runs runs)

end Coedit.Site
