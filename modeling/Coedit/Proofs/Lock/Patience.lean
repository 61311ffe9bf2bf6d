import Coedit.Proofs.Lock.Quests

/-!
# Patience

No wait gives up before its time.  A wait for a key, for a blocker and for other keys have
deadlines of their own, each worked out from what was left of the whole when it began; none of
them comes before the deadline of the whole, whenever the clock was read.  Who gives up names
the key he was refused last.
-/

namespace Coedit.Lock

/-! ## What a wait is stuck on -/

/-- Whether a wait is stuck on a key: on the one that is to be locked if its last claim was
refused, and otherwise on the key it has last seen to be held. -/
structure Aim.StuckOn (aim : Aim) (past : List Event) (key : String) : Prop where
  refused (refused : lastClaim? past = some (.ok false)) : aim.key? = some key
  held (granted : lastClaim? past ≠ some (.ok false)) :
    key ∈ aim.others ∧ lastHeld? past = some key

/-- Whether the store was asked for a key or about one. -/
def Event.isAttempt : Event → Bool
  | .answered (.claim _ _ _) _ _ => true
  | .answered (.check _) _ _ => true
  | _ => false

theorem Event.isAttempt_of_claimed? {event : Event} {reply : Lease.Reply}
    (claimed : event.claimed? = some reply) : event.isAttempt = true := by
  cases event with
  | rested pause moment => cases claimed
  | answered call reply moment =>
      cases call with
      | claim key token ttl => rfl
      | check key => rfl
      | revoke key token => cases claimed

theorem Event.isAttempt_of_held? {event : Event} {key : String}
    (held : event.held? = some key) : event.isAttempt = true := by
  cases event with
  | rested pause moment => cases held
  | answered call reply moment =>
      cases call with
      | claim key token ttl => rfl
      | check key => rfl
      | revoke key token => cases held

/-- Whoever is stuck has tried. -/
theorem Aim.StuckOn.attempted {aim : Aim} {past : List Event} {key : String}
    (stuck : aim.StuckOn past key) : ∃ event ∈ past, event.isAttempt = true := by
  by_cases refused : lastClaim? past = some (.ok false)
  · obtain ⟨event, member, claimed⟩ := List.exists_of_findSome?_eq_some refused
    exact ⟨event, member, Event.isAttempt_of_claimed? claimed⟩
  · obtain ⟨event, member, held⟩ := List.exists_of_findSome?_eq_some (stuck.held refused).2
    exact ⟨event, member, Event.isAttempt_of_held? held⟩

/-! ## Deadlines -/

namespace Backoff

variable {backoff : Backoff} {settings : Settings} {now later : Instant} {budget : Duration}

/-- At its deadline a wait has lasted as long as it might. -/
theorem le_waited (long : backoff.started.later budget ≤ backoff.deadline)
    (late : backoff.deadline ≤ now) : budget ≤ backoff.waited now := by
  simp only [Instant.le_iff, Instant.nanos_later] at long late
  simp only [Duration.le_iff, waited, Instant.nanos_since]
  omega

/-- A wait for what is left ends no earlier than the wait it is a part of. -/
theorem deadline_le_start_remaining (le : now ≤ later) :
    backoff.deadline ≤ (start settings later (backoff.remaining now)).deadline := by
  rw [Instant.le_iff] at le
  simp only [Instant.le_iff, start, Instant.nanos_later, remaining, Instant.nanos_since]
  omega

/-- The same if what is left is worked out from the time that has passed. -/
theorem deadline_le_start_rest (exact' : backoff.deadline = backoff.started.later budget)
    (begun : backoff.started ≤ now) (le : now ≤ later) :
    backoff.deadline ≤ (start settings later (budget - backoff.waited now)).deadline := by
  rw [Instant.le_iff] at begun le
  rw [exact']
  simp only [Instant.le_iff, start, Instant.nanos_later, Duration.nanos_sub, waited,
    Instant.nanos_since]
  omega

end Backoff

/-- The readings of a moment in order. -/
theorem Moment.Between.le {moment : Moment} {now later : Instant}
    (between : moment.Between now later) {early late : Nat} (le : early ≤ late) :
    moment.clock early ≤ moment.clock late :=
  Backoff.le_of_onward between.mono le

theorem Moment.Between.passed {moment : Moment} {now later : Instant}
    (between : moment.Between now later) : now ≤ later :=
  Nat.le_trans between.first (between.last 0)

/-- A watch over some of these keys that does not end before a deadline. -/
structure Watch.Outlasts (watch : Watch) (keys : List String) (deadline : Instant) : Prop where
  key : watch.key ∈ keys
  others {key : String} (member : key ∈ watch.others) : key ∈ keys
  deadline : deadline ≤ watch.backoff.deadline

theorem Watch.Outlasts.start {keys others : List String} {key : String} {backoff : Backoff}
    {deadline : Instant} (all : keys = key :: others) (late : deadline ≤ backoff.deadline) :
    Watch.Outlasts ⟨key, others, backoff⟩ keys deadline := by
  subst all
  exact ⟨List.mem_cons_self, List.mem_cons_of_mem _, late⟩

/-- The same watch goes on to the next key. -/
theorem Watch.Outlasts.more {watch : Watch} {keys others : List String} {key : String}
    {deadline : Instant} (outlasts : watch.Outlasts keys deadline)
    (more : watch.others = key :: others) :
    Watch.Outlasts { watch with key := key, others := others } keys deadline := by
  constructor
  · apply outlasts.others
    rw [more]
    exact List.mem_cons_self
  · intro other member
    apply outlasts.others
    rw [more]
    exact List.mem_cons_of_mem _ member
  · exact outlasts.deadline

/-! ## Acquisitions -/

namespace Acquisition

variable {acquisition after : Acquisition} {past : List Event} {now later began : Instant}
  {moment : Moment} {call : Lease.Call} {reply : Lease.Reply}

/-- An attempt that does not end before the acquisition as a whole has to; if it is the only
one, it may last as long as the whole. -/
structure Outlasts (acquisition : Acquisition) (attempt : Attempt) : Prop where
  key : attempt.key = acquisition.key
  deadline : acquisition.overall.deadline ≤ attempt.backoff.deadline
  long (once : ∀ blocker, acquisition.guard ≠ .unlessHeld blocker) :
    attempt.backoff.started.later acquisition.maxWait ≤ attempt.backoff.deadline

/-- The key is ours, and another one that we look at is not to be had. -/
structure Sees (acquisition : Acquisition) (past : List Event) (key : String) : Prop where
  granted : lastClaim? past = some (.ok true)
  other : key ∈ acquisition.guard.others
  held : lastHeld? past = some key

/-- What an acquisition knows in each phase of the time it has and of what it was told. -/
def Waits (acquisition : Acquisition) (past : List Event) (now : Instant) : Prop :=
  match acquisition.phase with
  | .taking attempt => acquisition.Outlasts attempt
  | .retrying _ attempt => acquisition.Outlasts attempt
  | .checking _ blocker =>
      acquisition.guard = .unlessHeld blocker ∧ lastClaim? past = some (.ok true)
  | .yielding _ blocker =>
      acquisition.guard = .unlessHeld blocker ∧ acquisition.Sees past blocker
  | .resting _ => ∃ blocker, acquisition.guard = .unlessHeld blocker
  | .watching _ watch =>
      (∃ keys, acquisition.guard = .untilFree keys) ∧ lastClaim? past = some (.ok true) ∧
        watch.Outlasts acquisition.guard.others acquisition.overall.deadline
  | .lingering _ _ watch =>
      (∃ keys, acquisition.guard = .untilFree keys) ∧ lastClaim? past = some (.ok true) ∧
        watch.Outlasts acquisition.guard.others acquisition.overall.deadline
  | .retreating _ failure => ∀ key waited, failure = .timeout key waited →
      (∃ keys, acquisition.guard = .untilFree keys) ∧ acquisition.Sees past key ∧
        acquisition.overall.deadline ≤ now
  | .acquired _ => True
  | .failed failure => ∀ key waited, failure = .timeout key waited →
      acquisition.overall.deadline ≤ now ∧ acquisition.maxWait ≤ waited ∧
        (Aim.lock acquisition.key acquisition.guard).StuckOn past key

/-- An acquisition that gives up no earlier than it may. -/
structure Patient (acquisition : Acquisition) (past : List Event) (now : Instant) : Prop where
  deadline : acquisition.overall.deadline =
    acquisition.overall.started.later acquisition.maxWait
  begun : acquisition.overall.started ≤ now
  waits : acquisition.Waits past now

/-- What an acquisition is about stays the same in all its steps. -/
structure SameTask (acquisition after : Acquisition) : Prop where
  key : after.key = acquisition.key
  guard : after.guard = acquisition.guard
  settings : after.settings = acquisition.settings
  maxWait : after.maxWait = acquisition.maxWait
  started : after.overall.started = acquisition.overall.started
  deadline : after.overall.deadline = acquisition.overall.deadline

theorem Turn.sameTask (turn : acquisition.Turn moment call reply after) :
    acquisition.SameTask after := by
  cases turn <;> exact ⟨rfl, rfl, rfl, rfl, rfl, rfl⟩

theorem sameTask_rested : acquisition.SameTask (acquisition.rested moment) := by
  unfold rested
  split <;> exact ⟨rfl, rfl, rfl, rfl, rfl, rfl⟩

theorem SameTask.patient {knows : List Event} (same : acquisition.SameTask after)
    (patient : acquisition.Patient past now) (passed : now ≤ later)
    (waits : after.Waits knows later) : after.Patient knows later := by
  constructor
  · rw [same.deadline, same.started, same.maxWait]
    exact patient.deadline
  · rw [same.started]
    exact Nat.le_trans patient.begun passed
  · exact waits

/-- Who has been refused the key is stuck on it. -/
theorem stuckOn_of_refused {key token : String} {ttl : Duration} (same : key = acquisition.key) :
    (Aim.lock acquisition.key acquisition.guard).StuckOn
      (.answered (.claim key token ttl) (.ok false) moment :: past) key := by
  constructor
  · intro _
    exact congrArg some same.symm
  · intro granted
    exact absurd rfl granted

/-- Who sees another key held, and has given his own back, is stuck on that other one. -/
theorem Sees.stuckOn {key : String} (sees : acquisition.Sees past key) {own token : String} :
    (Aim.lock acquisition.key acquisition.guard).StuckOn
      (.answered (.revoke own token) reply moment :: past) key := by
  constructor
  · intro refused
    cases sees.granted.symm.trans refused
  · intro _
    exact ⟨sees.other, sees.held⟩

/-- A new claim has as much time as is left of the whole. -/
theorem outlasts_claiming {token : String} {early late : Instant} (le : early ≤ late)
    (again : ∃ blocker, acquisition.guard = .unlessHeld blocker) :
    acquisition.Outlasts
      { key := acquisition.key
        token := token
        ttl := acquisition.settings.ttl
        backoff := .start acquisition.settings late (acquisition.overall.remaining early) } := by
  constructor
  · rfl
  · exact Backoff.deadline_le_start_remaining le
  · intro once
    obtain ⟨blocker, guard⟩ := again
    exact absurd guard (once blocker)

theorem patient_start (key : String) (guard : Guard) (settings : Settings) (maxWait : Duration)
    (between : moment.Between began now) :
    (start key guard settings maxWait moment).Patient [] now := by
  have second : (moment.clock 1) ≤ moment.clock 2 := between.mono 1
  have third : (moment.clock 0) ≤ moment.clock 2 := between.le (by decide)
  refine ⟨rfl, between.last 0, ?_⟩
  cases guard with
  | unlessHeld blocker => exact outlasts_claiming second ⟨blocker, rfl⟩
  | unguarded =>
      constructor
      · rfl
      · exact Nat.add_le_add_right third _
      · intro _
        exact Nat.le_refl _
  | untilFree keys =>
      constructor
      · rfl
      · exact Nat.add_le_add_right third _
      · intro _
        exact Nat.le_refl _

/-- A key that was granted leads to a phase in which it is known to be granted. -/
theorem Patient.granted (patient : acquisition.Patient past now)
    (between : moment.Between now later) {key token : String} {ttl : Duration} :
    (acquisition.into (acquisition.taken token moment)).Waits
      (.answered (.claim key token ttl) (.ok true) moment :: past) later := by
  unfold taken
  cases guard : acquisition.guard with
  | unguarded => trivial
  | unlessHeld blocker => exact ⟨guard, rfl⟩
  | untilFree keys =>
      cases keys with
      | nil => trivial
      | cons key others =>
          refine ⟨⟨key :: others, guard⟩, rfl, Watch.Outlasts.start ?_ ?_⟩
          · exact congrArg Guard.others guard
          · exact Backoff.deadline_le_start_rest patient.deadline
              (Nat.le_trans patient.begun between.first) (between.mono 0)

/-- Who is refused the key at the end reports a wait that is long enough. -/
theorem Patient.le_reported (patient : acquisition.Patient past now)
    (between : moment.Between now later) {attempt : Attempt}
    (outlasts : acquisition.Outlasts attempt)
    (late : attempt.backoff.deadline ≤ moment.clock 0) :
    acquisition.maxWait ≤ acquisition.reported attempt moment := by
  have atOnce (once : ∀ blocker, acquisition.guard ≠ .unlessHeld blocker) :
      acquisition.maxWait ≤ attempt.backoff.waited (moment.clock 1) :=
    Backoff.le_waited (outlasts.long once) (Nat.le_trans late (between.mono 0))
  unfold reported
  cases guard : acquisition.guard with
  | unguarded =>
      apply atOnce
      intro blocker unlessHeld
      rw [guard] at unlessHeld
      cases unlessHeld
  | untilFree keys =>
      apply atOnce
      intro blocker unlessHeld
      rw [guard] at unlessHeld
      cases unlessHeld
  | unlessHeld blocker =>
      apply Backoff.le_waited (Nat.le_of_eq (congrArg Instant.nanos patient.deadline.symm))
      exact Nat.le_trans outlasts.deadline (Nat.le_trans late (between.le (by decide)))

/-- What an acquisition knows after an answer. -/
theorem Patient.waits_turn (patient : acquisition.Patient past now)
    (between : moment.Between now later) (turn : acquisition.Turn moment call reply after) :
    after.Waits (.answered call reply moment :: past) later := by
  have waits := patient.waits
  have whole : acquisition.overall.started.later acquisition.maxWait ≤
      acquisition.overall.deadline :=
    Nat.le_of_eq (congrArg Instant.nanos patient.deadline.symm)
  unfold Waits at waits
  cases turn with
  | granted phase => exact patient.granted between
  | refused phase early =>
      rw [phase] at waits
      exact ⟨waits.key, waits.deadline, waits.long⟩
  | refusedLate phase late =>
      rw [phase] at waits
      rintro key waited ⟨⟩
      refine ⟨?_, patient.le_reported between waits late, stuckOn_of_refused waits.key⟩
      exact Nat.le_trans waits.deadline (Nat.le_trans late (between.last 0))
  | claimFailed phase => rintro key waited ⟨⟩
  | blockerFree phase => trivial
  | @blockerHeld token blocker phase =>
      rw [phase] at waits
      refine ⟨waits.1, waits.2, ?_, rfl⟩
      have others : acquisition.guard.others = [blocker] := congrArg Guard.others waits.1
      exact others ▸ List.mem_singleton_self blocker
  | blockerFailed phase => rintro key waited ⟨⟩
  | @yielded token blocker reply phase early =>
      rw [phase] at waits
      exact ⟨blocker, waits.1⟩
  | yieldedLate phase late =>
      rw [phase] at waits
      rintro key waited ⟨⟩
      refine ⟨Nat.le_trans late (between.last 0), ?_, waits.2.stuckOn⟩
      exact Backoff.le_waited whole (Nat.le_trans late (between.mono 0))
  | lookedLast phase last => trivial
  | lookedOn phase more =>
      rw [phase] at waits
      exact ⟨waits.1, waits.2.1, waits.2.2.more more⟩
  | lookedHeld phase early =>
      rw [phase] at waits
      exact ⟨waits.1, waits.2.1, waits.2.2.key, waits.2.2.others, waits.2.2.deadline⟩
  | lookedLate phase late =>
      rw [phase] at waits
      rintro key waited ⟨⟩
      refine ⟨waits.1, ⟨waits.2.1, waits.2.2.key, rfl⟩, ?_⟩
      exact Nat.le_trans waits.2.2.deadline (Nat.le_trans late (between.last 0))
  | lookFailed phase => rintro key waited ⟨⟩
  | @retreated token failure reply phase =>
      rw [phase] at waits
      cases failure with
      | unavailable key source =>
          intro other waited equal
          unfold told withWaited at equal
          cases guard : acquisition.guard <;> rw [guard] at equal <;> cases equal
      | timeout key waited =>
          obtain ⟨⟨keys, guard⟩, sees, late⟩ := waits key waited rfl
          intro other time equal
          simp only [told, guard, withWaited] at equal
          cases equal
          refine ⟨Nat.le_trans late between.passed, ?_, sees.stuckOn⟩
          exact Backoff.le_waited whole (Nat.le_trans late between.first)

/-- What an acquisition knows after a pause. -/
theorem Patient.waits_rested (patient : acquisition.Patient past now)
    (between : moment.Between now later) {pause : Duration}
    (need : acquisition.need? = some (.pause pause)) :
    (acquisition.rested moment).Waits (.rested pause moment :: past) later := by
  have waits := patient.waits
  unfold Waits at waits
  unfold need? at need
  cases phase : acquisition.phase <;> simp only [phase] at need waits <;> cases need
  case retrying.refl attempt =>
      rw [Acquisition.rested, phase]
      exact ⟨waits.key, waits.deadline, waits.long⟩
  case resting.refl =>
      rw [Acquisition.rested, phase]
      exact outlasts_claiming (between.mono 0) waits
  case lingering.refl token watch =>
      rw [Acquisition.rested, phase]
      exact ⟨waits.1, waits.2.1, waits.2.2.key, waits.2.2.others, waits.2.2.deadline⟩

end Acquisition

/-! ## Vigils -/

namespace Vigil

variable {vigil : Vigil} {keys : List String} {maxWait : Duration} {began now later : Instant}
  {past : List Event} {moment : Moment}

/-- A watch that does not end before a deadline and lasts as long as it may. -/
structure Outlasts (keys : List String) (maxWait : Duration) (deadline : Instant) (watch : Watch) :
    Prop where
  outlasts : watch.Outlasts keys deadline
  long : watch.backoff.started.later maxWait ≤ watch.backoff.deadline

/-- A vigil over keys that gives up no earlier than it may. -/
structure Patient (keys : List String) (maxWait : Duration) (deadline : Instant) (vigil : Vigil)
    (past : List Event) (now : Instant) : Prop where
  unclaimed : lastClaim? past = none
  waits : match vigil with
    | .looking watch => Outlasts keys maxWait deadline watch
    | .lingering _ watch => Outlasts keys maxWait deadline watch
    | .free => True
    | .failed failure => ∀ key waited, failure = .timeout key waited →
        deadline ≤ now ∧ maxWait ≤ waited ∧ (Aim.free keys).StuckOn past key

theorem patient_start (settings : Settings) (between : moment.Between began now) :
    Patient keys maxWait (began.later maxWait) (start keys settings maxWait moment) [] now := by
  refine ⟨rfl, ?_⟩
  cases keys with
  | nil => trivial
  | cons key others =>
      refine ⟨Watch.Outlasts.start rfl ?_, Nat.le_refl _⟩
      exact Nat.add_le_add_right between.first _

/-- An answer leaves a patient vigil patient. -/
theorem Patient.answered {deadline : Instant} {call : Lease.Call}
    (patient : Patient keys maxWait deadline vigil past now) (between : moment.Between now later)
    (need : vigil.need? = some (.call call)) (reply : Lease.Reply) :
    Patient keys maxWait deadline (vigil.answered reply moment)
      (.answered call reply moment :: past) later := by
  obtain ⟨unclaimed, waits⟩ := patient
  cases vigil with
  | lingering pause watch => cases need
  | free => cases need
  | failed failure => cases need
  | looking watch =>
      cases need
      refine ⟨unclaimed, ?_⟩
      have turn := watch.turn_next moment reply
      simp only [Vigil.answered]
      generalize watch.next reply moment = next at turn
      cases turn with
      | last last => trivial
      | more more => exact ⟨waits.outlasts.more more, waits.long⟩
      | held early =>
          exact ⟨⟨waits.outlasts.key, waits.outlasts.others, waits.outlasts.deadline⟩, waits.long⟩
      | late late =>
          rintro key waited ⟨⟩
          refine ⟨?_, Backoff.le_waited waits.long (Nat.le_trans late (between.mono 0)), ?_⟩
          · exact Nat.le_trans waits.outlasts.deadline (Nat.le_trans late (between.last 0))
          · constructor
            · intro refused
              cases unclaimed.symm.trans refused
            · intro _
              exact ⟨waits.outlasts.key, rfl⟩
      | failed error => rintro key waited ⟨⟩

/-- A pause leaves a patient vigil patient. -/
theorem Patient.rested {deadline : Instant} {pause : Duration}
    (patient : Patient keys maxWait deadline vigil past now)
    (need : vigil.need? = some (.pause pause)) :
    Patient keys maxWait deadline vigil.rested (.rested pause moment :: past) later := by
  obtain ⟨unclaimed, waits⟩ := patient
  cases vigil with
  | looking watch => cases need
  | free => cases need
  | failed failure => cases need
  | lingering pause watch => exact ⟨unclaimed, waits⟩

end Vigil

/-! ## Quests -/

/-- A quest that gives up no earlier than it may. -/
inductive Stage.Patient (aim : Aim) (maxWait : Duration) (began : Instant) : Stage → Prop where
  | acquisition {acquisition : Acquisition} {past : List Event} {now : Instant}
      (aims : aim = .lock acquisition.key acquisition.guard)
      (allows : acquisition.maxWait = maxWait) (begun : began ≤ acquisition.overall.started)
      (patient : acquisition.Patient past now) :
      Patient aim maxWait began ⟨.acquisition acquisition, past, now⟩
  | vigil {keys : List String} {vigil : Vigil} {past : List Event} {now : Instant}
      (aims : aim = .free keys)
      (patient : Vigil.Patient keys maxWait (began.later maxWait) vigil past now) :
      Patient aim maxWait began ⟨.vigil vigil, past, now⟩

namespace Stage

variable {aim : Aim} {settings : Settings} {maxWait : Duration} {began now : Instant}
  {moment : Moment} {stage after : Stage}

theorem patient_begin (aim : Aim) (settings : Settings) (maxWait : Duration)
    (between : moment.Between began now) :
    Patient aim maxWait began ⟨aim.begin settings maxWait moment, [], now⟩ := by
  cases aim with
  | lock key guard =>
      exact .acquisition rfl rfl between.first
        (Acquisition.patient_start key guard settings maxWait between)
  | free keys => exact .vigil rfl (Vigil.patient_start settings between)

/-- Each step keeps a quest patient, whenever it is taken. -/
theorem Patient.step (patient : Patient aim maxWait began stage)
    (step : Step Clock.onward stage after) : Patient aim maxWait began after := by
  cases patient with
  | @acquisition acquisition past now aims allows begun patient =>
      cases step with
      | @answered _ _ _ call need reply moment later ticks =>
          have turn : acquisition.Turn moment call reply (acquisition.answered reply moment) :=
            Acquisition.turn_answered need reply
          have same := turn.sameTask
          refine .acquisition ?_ (same.maxWait.trans allows) (same.started ▸ begun) ?_
          · rw [same.key, same.guard]
            exact aims
          · exact same.patient patient ticks.passed (patient.waits_turn ticks turn)
      | @rested _ _ _ pause need moment later ticks =>
          have same := @Acquisition.sameTask_rested acquisition moment
          refine .acquisition ?_ (same.maxWait.trans allows) (same.started ▸ begun) ?_
          · rw [same.key, same.guard]
            exact aims
          · exact same.patient patient ticks.passed (patient.waits_rested ticks need)
  | vigil aims patient =>
      cases step with
      | answered need reply ticks => exact .vigil aims (patient.answered ticks need reply)
      | rested need ticks => exact .vigil aims (patient.rested need)

/-- Who gives up after all has waited long enough, says so, and says for what. -/
theorem Patient.overdue (patient : Patient aim maxWait began stage) {key : String}
    {waited : Duration} (ended : stage.quest.result? = some (.error (.timeout key waited))) :
    began.later maxWait ≤ stage.now ∧ maxWait ≤ waited ∧ aim.StuckOn stage.past key := by
  cases patient with
  | @acquisition acquisition past now aims allows begun patient =>
      have phase := Quest.result?_acquisition_iff.mp ended
      have waits := patient.waits
      unfold Acquisition.Waits at waits
      rw [phase] at waits
      obtain ⟨late, long, stuck⟩ := waits key waited rfl
      refine ⟨?_, allows ▸ long, aims ▸ stuck⟩
      rw [patient.deadline, allows] at late
      exact Nat.le_trans (Nat.add_le_add_right begun _) late
  | @vigil keys vigil past now aims patient =>
      obtain rfl := Quest.result?_vigil_iff.mp ended
      obtain ⟨late, long, stuck⟩ := patient.waits key waited rfl
      exact ⟨late, long, aims ▸ stuck⟩

/-- Nobody who waits for the lock of a key, under any guard, or for keys to be free gives up
early: when he does, he has waited as long as he might, the wait he reports is as long as
that, he has tried at least once, and he names the key he is stuck on. -/
theorem gives_up_late (aim : Aim) (settings : Settings) (maxWait : Duration)
    (between : moment.Between began now)
    (reached : Reaches Clock.onward ⟨aim.begin settings maxWait moment, [], now⟩ stage)
    {key : String} {waited : Duration}
    (ended : stage.quest.result? = some (.error (.timeout key waited))) :
    began.later maxWait ≤ stage.now ∧ maxWait ≤ waited ∧
      (∃ event ∈ stage.past, event.isAttempt = true) ∧ aim.StuckOn stage.past key := by
  have patient : Patient aim maxWait began stage :=
    reached.keeps (patient_begin aim settings maxWait between) fun patient step =>
      patient.step step
  obtain ⟨late, long, stuck⟩ := patient.overdue ended
  exact ⟨late, long, stuck.attempted, stuck⟩

/-- Ten readings, one nanosecond apart. -/
def flow (now : Nat) : Moment := ⟨fun index => ⟨now + min index 9⟩, .zero, "token"⟩

theorem between_flow {early now late : Nat} (first : early ≤ now) (last : now + 9 ≤ late) :
    (flow now).Between ⟨early⟩ ⟨late⟩ := by
  constructor
  · exact first
  · intro index
    simp only [flow, Instant.le_iff]
    omega
  · intro index
    simp only [flow, Instant.le_iff]
    omega

/-- Somebody yields to a blocker, cannot even give his key back, sleeps for too long, and finds
his key taken: he gives up, and not before his time. -/
theorem gives_up_late_asleep :
    ∃ stage, Reaches Clock.onward
        ⟨(Aim.lock "plans" (.unlessHeld "hall")).begin .standard (.ofMillis 25) (flow 0), [], ⟨10⟩⟩
        stage ∧
      stage.quest.result? = some (.error (.timeout "plans" ⟨26000022⟩)) ∧
      Instant.later ⟨0⟩ (.ofMillis 25) ≤ stage.now ∧
      (Aim.lock "plans" (.unlessHeld "hall")).StuckOn stage.past "plans" := by
  have begun : Reaches Clock.onward
      ⟨(Aim.lock "plans" (.unlessHeld "hall")).begin .standard (.ofMillis 25) (flow 0), [], ⟨10⟩⟩
      _ := .refl
  have granted := begun.answered rfl (.ok true)
    (between_flow (by decide : 10 ≤ 20) (by decide : 29 ≤ 30))
  have blocked := granted.answered rfl (.ok true)
    (between_flow (by decide : 30 ≤ 30) (by decide : 39 ≤ 40))
  have yielded := blocked.answered rfl (.error (.unavailable "down"))
    (between_flow (by decide : 40 ≤ 40) (by decide : 49 ≤ 50))
  have rested := yielded.rested rfl
    (between_flow (by decide : 50 ≤ 26000000) (by decide : 26000009 ≤ 26000010))
  have reached := rested.answered rfl (.ok false)
    (between_flow (by decide : 26000010 ≤ 26000020) (by decide : 26000029 ≤ 26000030))
  obtain ⟨late, -, -, stuck⟩ := gives_up_late (.lock "plans" (.unlessHeld "hall")) .standard
    (.ofMillis 25) (between_flow (Nat.le_refl 0) (by decide : 9 ≤ 10)) reached rfl
  exact ⟨_, reached, rfl, late, stuck⟩

end Stage

end Coedit.Lock
