import Coedit.Proofs.Lock.Allowance

/-!
# Every wait ends

Under a clock that stands still except in pauses, no phase of a quest goes beyond what the wait
is allowed.  So every wait is over after a number of steps that is known beforehand, and whoever
gives up was refused when the deadline had come.
-/

namespace Coedit.Lock

/-! ## Acquisitions -/

namespace Acquisition

variable {allowance : Allowance} {acquisition after : Acquisition} {past : List Event}
  {now later : Instant} {moment : Moment} {call : Lease.Call} {reply : Lease.Reply}

/-- What may come in each phase of an acquisition: how many claims, looks and revocations there
may be before the next pause, and when a refusal was observed that a timeout can follow upon. -/
def Expects (allowance : Allowance) (acquisition : Acquisition) (past : List Event)
    (now : Instant) : Prop :=
  let others := acquisition.guard.others
  match acquisition.phase with
  | .taking attempt =>
      allowance.Paces now attempt.backoff ∧ Tally others past 1 others.length 1
  | .retrying pause attempt =>
      allowance.Allows now pause ∧ allowance.Paces now attempt.backoff ∧
        Tally others past 0 others.length 1
  | .checking _ _ => others.length = 1 ∧ Tally others past 0 1 1
  | .yielding _ _ => others.length = 1 ∧ lastRefusal? past = some now ∧ Tally others past 0 0 1
  | .resting pause => others.length = 1 ∧ allowance.Allows now pause ∧ Tally others past 0 0 0
  | .watching _ watch => allowance.Looks others past now 1 watch
  | .lingering _ pause watch => allowance.Lingers others past now 1 pause watch
  | .retreating _ failure => failure.Earned past now ∧ Tally others past 0 0 1
  | .acquired _ => Tally others past 0 0 0
  | .failed failure => failure.Earned past now ∧ Tally others past 0 0 0

/-- An acquisition that does not go on for longer than it may. -/
structure Proceeds (allowance : Allowance) (acquisition : Acquisition) (past : List Event)
    (now : Instant) : Prop where
  settings : acquisition.settings = allowance.settings
  maxWait : acquisition.maxWait = allowance.maxWait
  started : acquisition.overall.started = allowance.began
  deadline : acquisition.overall.deadline = allowance.deadline
  paces : allowance.Paces now acquisition.overall
  spends : allowance.Spends past now
  expects : acquisition.Expects allowance past now

/-- In each phase there were no more calls than there may be. -/
theorem Expects.tally (expects : acquisition.Expects allowance past now) :
    Tally acquisition.guard.others past 0 0 0 := by
  unfold Expects at expects
  have fewer {claims looks revocations : Nat}
      (tally : Tally acquisition.guard.others past claims looks revocations) :
      Tally acquisition.guard.others past 0 0 0 :=
    tally.fewer (Nat.zero_le _) (Nat.zero_le _) (Nat.zero_le _)
  cases phase : acquisition.phase <;> simp only [phase] at expects
  case taking => exact fewer expects.2
  case retrying => exact fewer expects.2.2
  case checking => exact fewer expects.2
  case yielding => exact fewer expects.2.2
  case resting => exact expects.2.2
  case watching => exact fewer expects.tally
  case lingering => exact fewer expects.tally
  case retreating => exact fewer expects.2
  case acquired => exact expects
  case failed => exact expects.2

theorem SameTask.proceeds {knows : List Event} (same : acquisition.SameTask after)
    (proceeds : acquisition.Proceeds allowance past now)
    (paces : allowance.Paces later after.overall) (spends : allowance.Spends knows later)
    (expects : after.Expects allowance knows later) : after.Proceeds allowance knows later where
  settings := same.settings.trans proceeds.settings
  maxWait := same.maxWait.trans proceeds.maxWait
  started := same.started.trans proceeds.started
  deadline := same.deadline.trans proceeds.deadline
  paces := paces
  spends := spends
  expects := expects

/-- A claim begins with what is left of the time. -/
theorem expects_claiming (valid : allowance.settings.validate = .ok ())
    (settings : acquisition.settings = allowance.settings) {budget : Duration} {token : String}
    (left : budget.nanos = allowance.deadline.nanos - now.nanos)
    (tally : Tally acquisition.guard.others past 1 acquisition.guard.others.length 1) :
    (acquisition.claiming budget now token).Expects allowance past now := by
  refine ⟨?_, tally⟩
  rw [settings]
  exact Allowance.paces_start valid left

/-- The key is had; the other keys may be looked at. -/
theorem Proceeds.granted (proceeds : acquisition.Proceeds allowance past now)
    (valid : allowance.settings.validate = .ok ()) (still : moment.clock = fun _ => now)
    {attempt : Attempt} (tally : Tally acquisition.guard.others past 1
      acquisition.guard.others.length 1) :
    (acquisition.into (acquisition.taken attempt.token moment)).Expects allowance
      (.answered attempt.call reply moment :: past) now := by
  have claimed : Tally acquisition.guard.others (.answered attempt.call reply moment :: past) 0
      acquisition.guard.others.length 1 := tally.claimed
  unfold taken
  cases guard : acquisition.guard with
  | unguarded =>
      simp only [guard, Guard.others] at claimed
      simp only [Expects, into, guard, Guard.others]
      exact claimed.fewer (Nat.le_refl _) (Nat.le_refl _) (Nat.zero_le _)
  | unlessHeld blocker =>
      simp only [guard, Guard.others] at claimed
      simp only [Expects, into, guard, Guard.others]
      exact ⟨rfl, claimed⟩
  | untilFree keys =>
      simp only [guard, Guard.others] at claimed
      cases keys with
      | nil =>
          simp only [Expects, into, guard, Guard.others, Watch.start?]
          exact claimed.fewer (Nat.le_refl _) (Nat.le_refl _) (Nat.zero_le _)
      | cons key others =>
          simp only [Expects, into, guard, Guard.others, Watch.start?]
          refine ⟨?_, claimed⟩
          have begun := proceeds.spends.begun
          rw [proceeds.settings, still]
          apply Allowance.paces_start valid
          rw [Instant.le_iff] at begun
          simp only [Duration.nanos_sub, Backoff.waited, Instant.nanos_since, proceeds.maxWait,
            proceeds.started, Allowance.nanos_deadline]
          omega

/-- What may come after an answer. -/
theorem Proceeds.expects_turn (proceeds : acquisition.Proceeds allowance past now)
    (valid : allowance.settings.validate = .ok ()) (still : moment.clock = fun _ => now)
    (turn : acquisition.Turn moment call reply after) :
    after.Expects allowance (.answered call reply moment :: past) now := by
  have expects := proceeds.expects
  have refused : some (moment.clock 0) = some now := by rw [still]
  unfold Expects at expects
  cases turn with
  | granted phase =>
      rw [phase] at expects
      exact proceeds.granted valid still expects.2
  | refused phase early =>
      rw [phase] at expects
      simp only [still] at early ⊢
      exact ⟨expects.1.allows early _, expects.1.doubled, expects.2.claimed⟩
  | refusedLate phase late =>
      rw [phase] at expects
      refine ⟨Failure.earned_of_refused refused, ?_⟩
      exact expects.2.claimed.fewer (Nat.le_refl _) (Nat.zero_le _) (Nat.zero_le _)
  | claimFailed phase =>
      rw [phase] at expects
      refine ⟨Failure.earned_unavailable, ?_⟩
      exact expects.2.claimed.fewer (Nat.le_refl _) (Nat.zero_le _) (Nat.zero_le _)
  | blockerFree phase =>
      rw [phase] at expects
      exact expects.2.looked.fewer (Nat.le_refl _) (Nat.le_refl _) (Nat.zero_le _)
  | blockerHeld phase =>
      rw [phase] at expects
      exact ⟨expects.1, refused, expects.2.looked⟩
  | blockerFailed phase =>
      rw [phase] at expects
      exact ⟨Failure.earned_unavailable, expects.2.looked⟩
  | yielded phase early =>
      rw [phase] at expects
      simp only [still] at early ⊢
      exact ⟨expects.1, proceeds.paces.allows early _, expects.2.2.revoked⟩
  | yieldedLate phase late =>
      rw [phase] at expects
      exact ⟨Failure.earned_of_refused expects.2.1, expects.2.2.revoked⟩
  | lookedLast phase last =>
      rw [phase] at expects
      exact expects.over.fewer (Nat.le_refl _) (Nat.le_refl _) (Nat.zero_le _)
  | lookedOn phase more =>
      rw [phase] at expects
      exact expects.more more
  | lookedHeld phase early =>
      rw [phase] at expects
      simp only [still] at early ⊢
      exact expects.lingers early _
  | lookedLate phase late =>
      rw [phase] at expects
      exact ⟨Failure.earned_of_refused refused, expects.over⟩
  | lookFailed phase =>
      rw [phase] at expects
      exact ⟨Failure.earned_unavailable, expects.over⟩
  | @retreated token failure reply phase =>
      rw [phase] at expects
      refine ⟨?_, expects.2.revoked⟩
      intro key waited told
      cases failure with
      | timeout key waited => exact expects.1 key waited rfl
      | unavailable key source =>
          cases guard : acquisition.guard <;>
            simp only [Acquisition.told, guard, withWaited] at told <;>
            cases told

theorem Proceeds.turn (proceeds : acquisition.Proceeds allowance past now)
    (valid : allowance.settings.validate = .ok ()) (still : moment.clock = fun _ => now)
    (turn : acquisition.Turn moment call reply after) :
    after.Proceeds allowance (.answered call reply moment :: past) now := by
  have paces : allowance.Paces now after.overall := by
    -- only a new round has a longer pause by the backoff of the whole
    cases turn
    case yielded => exact proceeds.paces.doubled
    all_goals exact proceeds.paces
  exact turn.sameTask.proceeds proceeds paces proceeds.spends.answered
    (proceeds.expects_turn valid still turn)

theorem overall_rested : (acquisition.rested moment).overall = acquisition.overall := by
  unfold rested
  split
  · rfl
  · rfl
  · rfl
  · rfl

/-- Every pause of an acquisition is one that there is time for. -/
theorem Expects.allows (expects : acquisition.Expects allowance past now) {pause : Duration}
    (need : acquisition.need? = some (.pause pause)) : allowance.Allows now pause := by
  unfold Expects at expects
  unfold need? at need
  cases phase : acquisition.phase <;> simp only [phase] at need expects <;> cases need
  case retrying.refl => exact expects.1
  case resting.refl => exact expects.2.1
  case lingering.refl => exact expects.allows

/-- What may come after a pause. -/
theorem Proceeds.expects_rested (proceeds : acquisition.Proceeds allowance past now)
    (valid : allowance.settings.validate = .ok ()) {pause : Duration}
    (need : acquisition.need? = some (.pause pause)) (still : moment.clock = fun _ => later)
    (long : now.later pause ≤ later) :
    (acquisition.rested moment).Expects allowance (.rested pause moment :: past) later := by
  have expects := proceeds.expects
  unfold Expects at expects
  unfold need? at need
  cases phase : acquisition.phase <;> simp only [phase] at need expects <;> cases need
  case retrying.refl attempt =>
      rw [Acquisition.rested, phase]
      refine ⟨expects.2.1.mono (Nat.le_trans (Nat.le_add_right _ _) long), ?_⟩
      exact expects.2.2.rested.fewer (Nat.le_refl _) (Nat.le_succ _) (Nat.le_succ _)
  case resting.refl =>
      rw [Acquisition.rested, phase]
      simp only [still]
      apply expects_claiming valid proceeds.settings
      · rw [Backoff.remaining, proceeds.deadline, Instant.nanos_since]
      · rw [expects.1]
        exact expects.2.2.rested
  case lingering.refl token watch =>
      rw [Acquisition.rested, phase]
      exact expects.looks long

theorem Proceeds.rested (proceeds : acquisition.Proceeds allowance past now)
    (valid : allowance.settings.validate = .ok ()) {pause : Duration}
    (need : acquisition.need? = some (.pause pause)) (still : moment.clock = fun _ => later)
    (long : now.later pause ≤ later) :
    (acquisition.rested moment).Proceeds allowance (.rested pause moment :: past) later := by
  apply sameTask_rested.proceeds proceeds
  · rw [overall_rested]
    exact proceeds.paces.mono (Nat.le_trans (Nat.le_add_right _ _) long)
  · exact proceeds.spends.rested valid (proceeds.expects.allows need) long
  · exact proceeds.expects_rested valid need still long

end Acquisition

/-! ## Vigils -/

namespace Vigil

variable {allowance : Allowance} {vigil : Vigil} {keys : List String} {now later : Instant}
  {past : List Event} {moment : Moment}

/-- A vigil over keys that does not go on for longer than it may. -/
structure Proceeds (allowance : Allowance) (keys : List String) (vigil : Vigil)
    (past : List Event) (now : Instant) : Prop where
  spends : allowance.Spends past now
  expects : match vigil with
    | .looking watch => allowance.Looks keys past now 0 watch
    | .lingering pause watch => allowance.Lingers keys past now 0 pause watch
    | .free => Tally keys past 0 0 0
    | .failed failure => failure.Earned past now ∧ Tally keys past 0 0 0

theorem Proceeds.tally (proceeds : vigil.Proceeds allowance keys past now) :
    Tally keys past 0 0 0 := by
  have expects := proceeds.expects
  cases vigil with
  | looking watch =>
      exact expects.tally.fewer (Nat.le_refl _) (Nat.zero_le _) (Nat.le_refl _)
  | lingering pause watch =>
      exact expects.tally.fewer (Nat.le_refl _) (Nat.zero_le _) (Nat.le_refl _)
  | free => exact expects
  | failed failure => exact expects.2

theorem Proceeds.answered (proceeds : vigil.Proceeds allowance keys past now)
    {call : Lease.Call} (need : vigil.need? = some (.call call)) (reply : Lease.Reply)
    (still : moment.clock = fun _ => now) :
    (vigil.answered reply moment).Proceeds allowance keys (.answered call reply moment :: past)
      now := by
  obtain ⟨spends, expects⟩ := proceeds
  cases vigil with
  | lingering pause watch => cases need
  | free => cases need
  | failed failure => cases need
  | looking watch =>
      cases need
      refine ⟨spends.answered, ?_⟩
      have turn := watch.turn_next moment reply
      simp only [Vigil.answered]
      generalize watch.next reply moment = next at turn
      cases turn with
      | last last => exact expects.over
      | more more => exact expects.more more
      | held early =>
          simp only [still] at early ⊢
          exact expects.lingers early _
      | late late =>
          refine ⟨Failure.earned_of_refused ?_, expects.over⟩
          exact congrArg (fun clock => some (clock 0)) still
      | failed error => exact ⟨Failure.earned_unavailable, expects.over⟩

theorem Proceeds.rested (proceeds : vigil.Proceeds allowance keys past now)
    (valid : allowance.settings.validate = .ok ()) {pause : Duration}
    (need : vigil.need? = some (.pause pause)) (long : now.later pause ≤ later) :
    vigil.rested.Proceeds allowance keys (.rested pause moment :: past) later := by
  obtain ⟨spends, expects⟩ := proceeds
  cases vigil with
  | looking watch => cases need
  | free => cases need
  | failed failure => cases need
  | lingering pause watch =>
      cases need
      exact ⟨spends.rested valid expects.allows long, expects.looks long⟩

end Vigil

/-! ## Quests -/

namespace Stage

/-- A quest that does not go on for longer than it may. -/
inductive Proceeds (aim : Aim) (allowance : Allowance) : Stage → Prop where
  | acquisition {acquisition : Acquisition} {past : List Event} {now : Instant}
      (looks : aim.others = acquisition.guard.others)
      (proceeds : acquisition.Proceeds allowance past now) :
      Proceeds aim allowance ⟨.acquisition acquisition, past, now⟩
  | vigil {vigil : Vigil} {past : List Event} {now : Instant}
      (proceeds : vigil.Proceeds allowance aim.others past now) :
      Proceeds aim allowance ⟨.vigil vigil, past, now⟩

variable {aim : Aim} {allowance : Allowance} {first stage after : Stage} {clock : Clock}

/-- Each step under a steady clock takes some of what a quest is allowed. -/
theorem Proceeds.step (proceeds : Proceeds aim allowance stage)
    (valid : allowance.settings.validate = .ok ()) (step : Step Clock.steady stage after) :
    Proceeds aim allowance after := by
  cases proceeds with
  | @acquisition acquisition past now looks proceeds =>
      cases step with
      | @answered _ _ _ call need reply moment later ticks =>
          obtain ⟨still, rfl⟩ := Clock.steady_call.mp ticks
          have turn : acquisition.Turn moment call reply (acquisition.answered reply moment) :=
            Acquisition.turn_answered need reply
          refine .acquisition ?_ (proceeds.turn valid still turn)
          rw [turn.sameTask.guard]
          exact looks
      | @rested _ _ _ pause need moment later ticks =>
          have same := @Acquisition.sameTask_rested acquisition moment
          refine .acquisition ?_ (proceeds.rested valid need ticks.1 ticks.2)
          rw [same.guard]
          exact looks
  | vigil proceeds =>
      cases step with
      | answered need reply ticks =>
          obtain ⟨still, rfl⟩ := Clock.steady_call.mp ticks
          exact .vigil (proceeds.answered need reply still)
      | rested need ticks => exact .vigil (proceeds.rested valid need ticks.2)

theorem Proceeds.spends (proceeds : Proceeds aim allowance stage) :
    allowance.Spends stage.past stage.now := by
  cases proceeds with
  | acquisition looks proceeds => exact proceeds.spends
  | vigil proceeds => exact proceeds.spends

theorem Proceeds.tally (proceeds : Proceeds aim allowance stage) :
    Tally aim.others stage.past 0 0 0 := by
  cases proceeds with
  | acquisition looks proceeds => exact looks ▸ proceeds.expects.tally
  | vigil proceeds => exact proceeds.tally

/-- There are no more steps than pauses leave room for. -/
theorem Proceeds.length_le (proceeds : Proceeds aim allowance stage) :
    stage.past.length ≤ 4 * allowance.pauses + aim.others.length + 2 := by
  have rests := proceeds.spends.rests
  obtain ⟨claims, looks, revocations⟩ := proceeds.tally
  rw [length_eq_counts]
  omega

/-- Whoever gives up has just been refused. -/
theorem Proceeds.refused (proceeds : Proceeds aim allowance stage) {key : String}
    {waited : Duration} (ended : stage.quest.result? = some (.error (.timeout key waited))) :
    lastRefusal? stage.past = some stage.now := by
  cases proceeds with
  | acquisition looks proceeds =>
      have expects := proceeds.expects
      unfold Acquisition.Expects at expects
      rw [Quest.result?_acquisition_iff.mp ended] at expects
      exact expects.1 key waited rfl
  | vigil proceeds =>
      obtain rfl := Quest.result?_vigil_iff.mp ended
      exact proceeds.expects.1 key waited rfl

/-! ## Going on to the end -/

/-- Go on with this answer, or with a pause that is not longer than it has to be. -/
def goOn (reply : Lease.Reply) (jitter : Duration) (token : String) (stage : Stage) : Stage :=
  match stage.quest.need? with
  | some (.call call) =>
      let moment := .at stage.now jitter token
      ⟨stage.quest.answered reply moment, .answered call reply moment :: stage.past, stage.now⟩
  | some (.pause pause) =>
      let later := stage.now.later pause
      let moment := .at later jitter token
      ⟨stage.quest.rested moment, .rested pause moment :: stage.past, later⟩
  | none => stage

/-- How a quest goes on from a stage: each stage follows from the one before until the quest
has ended. -/
structure Course (clock : Clock) (first : Stage) (stages : Nat → Stage) : Prop where
  begins : stages 0 = first
  goesOn (count : Nat) (open' : (stages count).quest.result? = none) :
    Step clock (stages count) (stages (count + 1))

/-- While it has not ended, each step adds to what a quest has met with. -/
theorem Course.reaches {stages : Nat → Stage} (course : Course clock first stages) {count : Nat}
    (open' : ∀ earlier < count, (stages earlier).quest.result? = none) :
    Reaches clock first (stages count) ∧
      (stages count).past.length = first.past.length + count := by
  induction count with
  | zero =>
      rw [course.begins]
      exact ⟨.refl, rfl⟩
  | succ count ih =>
      obtain ⟨reached, length⟩ := ih fun earlier less => open' earlier (Nat.lt_succ_of_lt less)
      have step := course.goesOn count (open' count (Nat.lt_succ_self count))
      refine ⟨reached.tail step, ?_⟩
      rw [← Nat.add_assoc, ← length]
      generalize stages count = before at step
      generalize stages (count + 1) = after at step
      cases step <;> rfl

/-- If what a quest meets with is bounded, the quest ends. -/
theorem Course.ends {stages : Nat → Stage} (course : Course clock first stages) {most : Nat}
    (few : ∀ stage, Reaches clock first stage → stage.past.length ≤ most) :
    ∃ count ≤ most, (stages count).quest.result?.isSome = true := by
  by_contra endless
  have open' (earlier : Nat) (less : earlier < most + 1) :
      (stages earlier).quest.result? = none := by
    rw [← Option.not_isSome_iff_eq_none]
    intro ended
    exact endless ⟨earlier, Nat.le_of_lt_succ less, ended⟩
  obtain ⟨reached, length⟩ := course.reaches open'
  have many : most + 1 ≤ (stages (most + 1)).past.length := length ▸ Nat.le_add_left _ _
  exact Nat.not_succ_le_self most (Nat.le_trans many (few _ reached))

/-- Pauses of ten milliseconds, all of them. -/
def even : Settings := ⟨.ofSecs 30, .ofMillis 10, .ofMillis 10⟩

/-- Somebody who gets his key and yields to a blocker each time, after so many steps. -/
def yielding (count : Nat) : Stage :=
  (goOn (.ok true) .zero "token")^[count]
    ⟨(Aim.lock "plans" (.unlessHeld "hall")).begin even (.ofMillis 25) (.at ⟨0⟩ .zero "token"), [],
      ⟨0⟩⟩

end Stage

end Coedit.Lock
