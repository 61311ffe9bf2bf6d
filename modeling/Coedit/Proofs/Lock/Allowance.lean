import Coedit.Proofs.Lock.Patience
import Mathlib.Algebra.Order.Floor.Div

/-!
# What a wait is allowed

Between two pauses of a wait its key is claimed at most once and given back at most once, and
each pause makes room for one more look at another key.  As every pause that begins before the
deadline takes at least as long as the first one, or until the deadline, there are only so many
pauses.
-/

namespace Coedit.Lock

/-! ## What is counted -/

namespace Event

def isClaim : Event → Bool
  | .answered (.claim _ _ _) _ _ => true
  | _ => false

/-- Whether it was looked whether a key is held. -/
def isLook : Event → Bool
  | .answered (.check _) _ _ => true
  | _ => false

def isRevocation : Event → Bool
  | .answered (.revoke _ _) _ _ => true
  | _ => false

def isRest : Event → Bool
  | .rested _ _ => true
  | _ => false

/-- When a claim was refused, or a key was seen to be held. -/
def refusedAt? : Event → Option Instant
  | .answered (.claim _ _ _) (.ok false) moment => some (moment.clock 0)
  | .answered (.check _) (.ok true) moment => some (moment.clock 0)
  | _ => none

end Event

/-- When the last refusal came. -/
def lastRefusal? (past : List Event) : Option Instant := past.findSome? Event.refusedAt?

theorem countP_cons_toNat (kind : Event → Bool) (event : Event) (past : List Event) :
    (event :: past).countP kind = past.countP kind + (kind event).toNat := by
  rw [List.countP_cons]
  cases kind event <;> rfl

/-- Every event is of one of the four kinds. -/
theorem length_eq_counts (past : List Event) :
    past.length = past.countP Event.isClaim + past.countP Event.isLook +
      past.countP Event.isRevocation + past.countP Event.isRest := by
  induction past with
  | nil => rfl
  | cons event past ih =>
      have one : event.isClaim.toNat + event.isLook.toNat + event.isRevocation.toNat +
          event.isRest.toNat = 1 := by
        rcases event with ⟨call, reply, moment⟩ | ⟨pause, moment⟩
        · cases call <;> rfl
        · rfl
      simp only [countP_cons_toNat, List.length_cons]
      omega

/-- How many calls of each kind there may still be before the next pause: altogether there are
no more claims, and no more revocations, than pauses and one, and no more looks than pauses and
keys to look at. -/
structure Tally (keys : List String) (past : List Event) (claims looks revocations : Nat) :
    Prop where
  claims : past.countP Event.isClaim + claims ≤ past.countP Event.isRest + 1
  looks : past.countP Event.isLook + looks ≤ past.countP Event.isRest + keys.length
  revocations : past.countP Event.isRevocation + revocations ≤ past.countP Event.isRest + 1

namespace Tally

variable {keys : List String} {past : List Event} {claims looks revocations : Nat}
  {reply : Lease.Reply} {moment : Moment}

/-- There may always be fewer calls. -/
theorem fewer (tally : Tally keys past claims looks revocations)
    {claims' looks' revocations' : Nat} (fewerClaims : claims' ≤ claims)
    (fewerLooks : looks' ≤ looks) (fewerRevocations : revocations' ≤ revocations) :
    Tally keys past claims' looks' revocations' := by
  constructor
  · exact Nat.le_trans (Nat.add_le_add_left fewerClaims _) tally.claims
  · exact Nat.le_trans (Nat.add_le_add_left fewerLooks _) tally.looks
  · exact Nat.le_trans (Nat.add_le_add_left fewerRevocations _) tally.revocations

/-- A call that is made is one of those that there may be. -/
theorem met {event : Event} (made : event.isRest = false)
    (tally : Tally keys past (claims + event.isClaim.toNat) (looks + event.isLook.toNat)
      (revocations + event.isRevocation.toNat)) :
    Tally keys (event :: past) claims looks revocations := by
  have same : (event :: past).countP Event.isRest = past.countP Event.isRest :=
    List.countP_cons_of_neg (by rw [made]; exact Bool.false_ne_true)
  obtain ⟨claims, looks, revocations⟩ := tally
  constructor
  · rw [same, countP_cons_toNat]
    omega
  · rw [same, countP_cons_toNat]
    omega
  · rw [same, countP_cons_toNat]
    omega

theorem claimed (tally : Tally keys past (claims + 1) looks revocations)
    {key token : String} {ttl : Duration} :
    Tally keys (.answered (.claim key token ttl) reply moment :: past) claims looks
      revocations :=
  met rfl tally

theorem looked (tally : Tally keys past claims (looks + 1) revocations) {key : String} :
    Tally keys (.answered (.check key) reply moment :: past) claims looks revocations :=
  met rfl tally

theorem revoked (tally : Tally keys past claims looks (revocations + 1)) {key token : String} :
    Tally keys (.answered (.revoke key token) reply moment :: past) claims looks revocations :=
  met rfl tally

/-- A pause makes room for one more call of each kind. -/
theorem rested (tally : Tally keys past claims looks revocations) {pause : Duration} :
    Tally keys (.rested pause moment :: past) (claims + 1) (looks + 1) (revocations + 1) := by
  have one : (Event.rested pause moment :: past).countP Event.isRest =
      past.countP Event.isRest + 1 := List.countP_cons_of_pos rfl
  obtain ⟨claims, looks, revocations⟩ := tally
  constructor
  · rw [one, countP_cons_toNat]
    exact Nat.succ_le_succ claims
  · rw [one, countP_cons_toNat, Nat.succ_add]
    exact Nat.succ_le_succ looks
  · rw [one, countP_cons_toNat]
    exact Nat.succ_le_succ revocations

end Tally

/-! ## The time there is -/

/-- What a wait is given: its settings, when it begins, and how long it may take. -/
structure Allowance where
  settings : Settings
  began : Instant
  maxWait : Duration

namespace Allowance

variable {allowance : Allowance} {backoff : Backoff} {now later : Instant} {pause : Duration}
  {past : List Event} {moment : Moment}

def deadline (allowance : Allowance) : Instant := allowance.began.later allowance.maxWait

theorem nanos_deadline :
    allowance.deadline.nanos = allowance.began.nanos + allowance.maxWait.nanos := rfl

/-- As many pauses of the initial length as it takes to come to the deadline. -/
def pauses (allowance : Allowance) : Nat :=
  allowance.maxWait.nanos ⌈/⌉ allowance.settings.initialBackoff.nanos

/-- A backoff whose pauses are no shorter than the first one, and which goes on until the
deadline; it may also have run out already. -/
structure Paces (allowance : Allowance) (now : Instant) (backoff : Backoff) : Prop where
  delay : allowance.settings.initialBackoff ≤ backoff.delay
  limit : allowance.settings.initialBackoff ≤ backoff.limit
  deadline (early : now < backoff.deadline) : backoff.deadline = allowance.deadline

theorem Paces.mono (paces : allowance.Paces now backoff) (le : now ≤ later) :
    allowance.Paces later backoff := by
  refine ⟨paces.delay, paces.limit, ?_⟩
  intro early
  exact paces.deadline (Nat.lt_of_le_of_lt le early)

theorem Paces.doubled (paces : allowance.Paces now backoff) :
    allowance.Paces now backoff.doubled := by
  refine ⟨?_, paces.limit, paces.deadline⟩
  have delay := paces.delay
  have limit := paces.limit
  rw [Duration.le_iff] at delay limit ⊢
  rw [Backoff.nanos_delay_doubled]
  omega

/-- A backoff that starts with what is left of the time. -/
theorem paces_start (valid : allowance.settings.validate = .ok ()) {budget : Duration}
    (left : budget.nanos = allowance.deadline.nanos - now.nanos) :
    allowance.Paces now (.start allowance.settings now budget) := by
  refine ⟨Nat.le_refl _, Settings.initialBackoff_le_maxBackoff valid, ?_⟩
  intro early
  rw [Instant.lt_iff] at early
  apply congrArg Instant.mk
  rw [nanos_deadline] at left
  simp only [Backoff.start, Instant.nanos_later] at early ⊢
  omega

/-- A pause that begins before the deadline and lasts as long as the first one, or until the
deadline. -/
structure Allows (allowance : Allowance) (now : Instant) (pause : Duration) : Prop where
  early : now < allowance.deadline
  long : allowance.settings.initialBackoff ≤ pause ∨ allowance.deadline ≤ now.later pause

theorem Paces.allows (paces : allowance.Paces now backoff) (early : now < backoff.deadline)
    (jitter : Duration) : allowance.Allows now (backoff.pauseLength now jitter) := by
  have delay := paces.delay
  have same := paces.deadline early
  constructor
  · exact same ▸ early
  · rw [← same]
    simp only [Duration.le_iff, Instant.le_iff, Instant.lt_iff, Instant.nanos_later,
      Backoff.nanos_pauseLength] at delay early ⊢
    omega

/-- The pauses there were, each of which took its time. -/
structure Spends (allowance : Allowance) (past : List Event) (now : Instant) : Prop where
  begun : allowance.began ≤ now
  rests : past.countP Event.isRest ≤ allowance.pauses
  paced (early : now < allowance.deadline) :
    allowance.began.nanos +
      past.countP Event.isRest * allowance.settings.initialBackoff.nanos ≤ now.nanos

theorem Spends.answered (spends : allowance.Spends past now) {call : Lease.Call}
    {reply : Lease.Reply} : allowance.Spends (.answered call reply moment :: past) now :=
  ⟨spends.begun, spends.rests, spends.paced⟩

/-- A pause that begins before the deadline is one of those that there is time for. -/
theorem Spends.rested (spends : allowance.Spends past now)
    (valid : allowance.settings.validate = .ok ()) (allows : allowance.Allows now pause)
    (long : now.later pause ≤ later) :
    allowance.Spends (.rested pause moment :: past) later := by
  have paced := spends.paced allows.early
  have lasting := Settings.initialBackoff_pos valid
  have one : (Event.rested pause moment :: past).countP Event.isRest =
      past.countP Event.isRest + 1 := List.countP_cons_of_pos rfl
  have within : past.countP Event.isRest * allowance.settings.initialBackoff.nanos <
      allowance.maxWait.nanos := by
    have early := allows.early
    rw [Instant.lt_iff, nanos_deadline] at early
    omega
  refine ⟨?_, ?_, ?_⟩
  · exact Nat.le_trans spends.begun (Nat.le_trans (Nat.le_add_right _ _) long)
  · rw [one]
    apply Nat.lt_of_not_le
    intro enough
    rw [pauses, ceilDiv_le_iff_le_mul lasting, Nat.mul_comm] at enough
    exact Nat.not_le_of_lt within enough
  · intro early
    -- a pause that is cut short ends at the deadline, and it is not that late
    have full : allowance.settings.initialBackoff ≤ pause := by
      rcases allows.long with full | ended
      · exact full
      · exact absurd (Nat.le_trans ended long) (Nat.not_le_of_lt early)
    rw [Instant.le_iff, Instant.nanos_later] at long
    rw [Duration.le_iff] at full
    rw [one, Nat.succ_mul]
    omega

/-! ## Looking at keys one after the other -/

variable {keys : List String} {watch : Watch} {revocations : Nat} {reply : Lease.Reply}

/-- A watch that may look at its keys once, and once more after each pause. -/
structure Looks (allowance : Allowance) (keys : List String) (past : List Event) (now : Instant)
    (revocations : Nat) (watch : Watch) : Prop where
  paces : allowance.Paces now watch.backoff
  tally : Tally keys past 0 (watch.others.length + 1) revocations

/-- A watch in a pause before it looks at a key again. -/
structure Lingers (allowance : Allowance) (keys : List String) (past : List Event)
    (now : Instant) (revocations : Nat) (pause : Duration) (watch : Watch) : Prop where
  allows : allowance.Allows now pause
  paces : allowance.Paces now watch.backoff
  tally : Tally keys past 0 watch.others.length revocations

theorem Looks.more (looks : allowance.Looks keys past now revocations watch) {key : String}
    {others : List String} (more : watch.others = key :: others) :
    allowance.Looks keys (.answered watch.call reply moment :: past) now revocations
      { watch with key := key, others := others } := by
  refine ⟨looks.paces, ?_⟩
  have tally := looks.tally
  rw [more] at tally
  exact tally.looked

theorem Looks.lingers (looks : allowance.Looks keys past now revocations watch)
    (early : now < watch.backoff.deadline) (jitter : Duration) :
    allowance.Lingers keys (.answered watch.call reply moment :: past) now revocations
      (watch.backoff.pauseLength now jitter)
      { watch with backoff := watch.backoff.doubled } :=
  ⟨looks.paces.allows early jitter, looks.paces.doubled, looks.tally.looked⟩

/-- After its last look a watch may be given up. -/
theorem Looks.over (looks : allowance.Looks keys past now revocations watch) :
    Tally keys (.answered watch.call reply moment :: past) 0 0 revocations :=
  looks.tally.looked.fewer (Nat.le_refl _) (Nat.zero_le _) (Nat.le_refl _)

theorem Lingers.looks (lingers : allowance.Lingers keys past now revocations pause watch)
    (long : now.later pause ≤ later) :
    allowance.Looks keys (.rested pause moment :: past) later revocations watch := by
  constructor
  · exact lingers.paces.mono (Nat.le_trans (Nat.le_add_right _ _) long)
  · exact lingers.tally.rested.fewer (Nat.zero_le _) (Nat.le_refl _) (Nat.le_succ _)

end Allowance

/-- Whether a failure, if it says that the time was up, follows upon a refusal. -/
def Failure.Earned (past : List Event) (now : Instant) (failure : Failure) : Prop :=
  ∀ key waited, failure = .timeout key waited → lastRefusal? past = some now

theorem Failure.earned_unavailable {past : List Event} {now : Instant} {key : String}
    {source : StoreError} : Failure.Earned past now (.unavailable key source) := by
  rintro other waited ⟨⟩

theorem Failure.earned_of_refused {past : List Event} {now : Instant} {failure : Failure}
    (refused : lastRefusal? past = some now) : Failure.Earned past now failure :=
  fun _ _ _ => refused

end Coedit.Lock
