import Coedit.Lock.Vigil
import Coedit.Proofs.Lock.Pauses
import Mathlib.Logic.Relation

/-!
# Quests under a clock

A quest meets with the answers of a store, with pauses, and with a clock.  Here is what one
step of a quest can be: which answer leads from which phase to which, and when a deadline is
found to have come.  What holds of every quest is derived from these steps alone.
-/

namespace Coedit.Lock

/-! ## What a quest is after -/

/-- The keys that are looked at, besides the one that is locked. -/
def Guard.others : Guard → List String
  | .unguarded => []
  | .unlessHeld blocker => [blocker]
  | .untilFree keys => keys

/-- The lock of a key under a guard, or that some keys are free. -/
inductive Aim where
  | lock (key : String) (guard : Guard)
  | free (keys : List String)

namespace Aim

/-- Begin a quest that takes `maxWait` at most. -/
def begin (aim : Aim) (settings : Settings) (maxWait : Duration) (moment : Moment) : Quest :=
  match aim with
  | .lock key guard => .acquisition (.start key guard settings maxWait moment)
  | .free keys => .vigil (.start keys settings maxWait moment)

/-- The key that is to be locked. -/
def key? : Aim → Option String
  | .lock key _ => some key
  | .free _ => none

/-- The keys that are only looked at. -/
def others : Aim → List String
  | .lock _ guard => guard.others
  | .free keys => keys

end Aim

/-! ## What a quest meets with -/

inductive Event where
  /-- A call was answered. -/
  | answered (call : Lease.Call) (reply : Lease.Reply) (moment : Moment)
  /-- A pause was over. -/
  | rested (pause : Duration) (moment : Moment)

namespace Event

/-- The answer to a claim. -/
def claimed? : Event → Option Lease.Reply
  | .answered (.claim _ _ _) reply _ => some reply
  | _ => none

/-- The key that was seen to be held. -/
def held? : Event → Option String
  | .answered (.check key) (.ok true) _ => some key
  | _ => none

end Event

/-- The answer to the last claim. -/
def lastClaim? (past : List Event) : Option Lease.Reply := past.findSome? Event.claimed?

/-- The key that was last seen to be held. -/
def lastHeld? (past : List Event) : Option String := past.findSome? Event.held?

/-- A quest with what it has met with, the latest first, and the time that has come. -/
structure Stage where
  quest : Quest
  past : List Event
  now : Instant

/-- A way of a clock to go on while something is waited for: from when, what is read off it
when the quest goes on, and until when. -/
abbrev Clock := Need → Instant → Moment → Instant → Prop

/-- The readings of a moment between two points in time, none of them before another that was
taken earlier. -/
structure Moment.Between (moment : Moment) (now later : Instant) : Prop where
  first : now ≤ moment.clock 0
  mono (index : Nat) : moment.clock index ≤ moment.clock (index + 1)
  last (index : Nat) : moment.clock index ≤ later

namespace Clock

/-- A clock that never goes back: time may pass whenever the quest waits. -/
def onward : Clock := fun _ now moment later => moment.Between now later

/-- A clock that stands still except in pauses, none of which is cut short. -/
def steady : Clock := fun need now moment later =>
  moment.clock = (fun _ => later) ∧
    match need with
    | .call _ => later = now
    | .pause pause => now.later pause ≤ later

theorem steady_call {call : Lease.Call} {now later : Instant} {moment : Moment} :
    steady (.call call) now moment later ↔ moment.clock = (fun _ => now) ∧ later = now := by
  constructor
  · rintro ⟨readings, rfl⟩
    exact ⟨readings, rfl⟩
  · rintro ⟨readings, rfl⟩
    exact ⟨readings, rfl⟩

/-- A clock that stands still never goes back. -/
theorem onward_of_steady {need : Need} {now later : Instant} {moment : Moment}
    (ticks : steady need now moment later) : onward need now moment later := by
  obtain ⟨readings, until'⟩ := ticks
  have passed : now ≤ later := by
    cases need with
    | call call => exact Nat.le_of_eq (congrArg Instant.nanos until'.symm)
    | pause pause => exact Nat.le_trans (Nat.le_add_right _ _) until'
  constructor
  · rw [readings]
    exact passed
  · intro index
    rw [readings]
    exact Nat.le_refl _
  · intro index
    rw [readings]
    exact Nat.le_refl _

end Clock

namespace Stage

/-- A step of a quest: a call is answered in whatever way, or a pause is over. -/
inductive Step (clock : Clock) : Stage → Stage → Prop where
  | answered {quest : Quest} {past : List Event} {now : Instant} {call : Lease.Call}
      (need : quest.need? = some (.call call)) (reply : Lease.Reply) {moment : Moment}
      {later : Instant} (ticks : clock (.call call) now moment later) :
      Step clock ⟨quest, past, now⟩
        ⟨quest.answered reply moment, .answered call reply moment :: past, later⟩
  | rested {quest : Quest} {past : List Event} {now : Instant} {pause : Duration}
      (need : quest.need? = some (.pause pause)) {moment : Moment} {later : Instant}
      (ticks : clock (.pause pause) now moment later) :
      Step clock ⟨quest, past, now⟩
        ⟨quest.rested moment, .rested pause moment :: past, later⟩

/-- The stages that can be reached under a clock. -/
abbrev Reaches (clock : Clock) : Stage → Stage → Prop := Relation.ReflTransGen (Step clock)

variable {first stage after : Stage} {clock : Clock}

theorem Reaches.answered (reached : Reaches clock first stage) {call : Lease.Call}
    (need : stage.quest.need? = some (.call call)) (reply : Lease.Reply) {moment : Moment}
    {later : Instant} (ticks : clock (.call call) stage.now moment later) :
    Reaches clock first
      ⟨stage.quest.answered reply moment, .answered call reply moment :: stage.past, later⟩ :=
  reached.tail (.answered need reply ticks)

theorem Reaches.rested (reached : Reaches clock first stage) {pause : Duration}
    (need : stage.quest.need? = some (.pause pause)) {moment : Moment} {later : Instant}
    (ticks : clock (.pause pause) stage.now moment later) :
    Reaches clock first
      ⟨stage.quest.rested moment, .rested pause moment :: stage.past, later⟩ :=
  reached.tail (.rested need ticks)

/-- What holds at first and is kept by each step holds all along. -/
theorem Reaches.keeps {keeps : Stage → Prop} (reached : Reaches clock first stage)
    (start : keeps first)
    (step : ∀ {stage after : Stage}, keeps stage → Step clock stage after → keeps after) :
    keeps stage := by
  induction reached with
  | refl => exact start
  | tail _ taken ih => exact step ih taken

theorem Step.onward (step : Step Clock.steady stage after) : Step Clock.onward stage after := by
  cases step with
  | answered need reply ticks => exact .answered need reply (Clock.onward_of_steady ticks)
  | rested need ticks => exact .rested need (Clock.onward_of_steady ticks)

theorem Reaches.onward (reached : Reaches Clock.steady first stage) :
    Reaches Clock.onward first stage :=
  Relation.ReflTransGen.mono (fun _ _ step => Step.onward step) _ _ reached

end Stage

/-! ## Quests that have ended -/

/-- An acquisition ends with a failure just if it is the last phase. -/
theorem Acquisition.result?_eq_error_iff {acquisition : Acquisition} {failure : Failure} :
    acquisition.result? = some (.error failure) ↔ acquisition.phase = .failed failure := by
  unfold result?
  cases acquisition.phase <;> simp

theorem Vigil.result?_eq_error_iff {vigil : Vigil} {failure : Failure} :
    vigil.result? = some (.error failure) ↔ vigil = .failed failure := by
  cases vigil <;> simp [result?]

theorem Quest.result?_acquisition_iff {acquisition : Acquisition} {failure : Failure} :
    (Quest.acquisition acquisition).result? = some (.error failure) ↔
      acquisition.phase = .failed failure := by
  rw [← Acquisition.result?_eq_error_iff, Quest.result?]
  cases acquisition.result? with
  | none => simp
  | some value => cases value <;> simp [Except.map]

theorem Quest.result?_vigil_iff {vigil : Vigil} {failure : Failure} :
    (Quest.vigil vigil).result? = some (.error failure) ↔ vigil = .failed failure := by
  rw [← Vigil.result?_eq_error_iff, Quest.result?]
  cases vigil.result? with
  | none => simp
  | some value => cases value <;> simp [Except.map]

/-! ## Attempts and watches -/

namespace Attempt

variable {attempt : Attempt} {moment : Moment}

/-- A refused claim is made again after a pause, if the deadline has not come. -/
theorem next_of_early (early : moment.clock 0 < attempt.backoff.deadline) :
    attempt.next (.ok false) moment =
      .again (attempt.backoff.pauseLength (moment.clock 0) moment.jitter)
        { attempt with backoff := attempt.backoff.doubled } := by
  simp only [next, Backoff.pause?_of_early early]

theorem next_of_late (late : attempt.backoff.deadline ≤ moment.clock 0) :
    attempt.next (.ok false) moment =
      .failed (.timeout attempt.key (attempt.backoff.waited (moment.clock 1))) := by
  simp only [next, Backoff.pause?_of_late late]

end Attempt

namespace Watch

variable {watch : Watch} {moment : Moment}

/-- What can follow the answer to a look. -/
inductive Turn (watch : Watch) (moment : Moment) : Lease.Reply → Watch.Next → Prop where
  | last (last : watch.others = []) : Turn watch moment (.ok false) .free
  | more {key : String} {others : List String} (more : watch.others = key :: others) :
      Turn watch moment (.ok false) (.look { watch with key := key, others := others })
  | held (early : moment.clock 0 < watch.backoff.deadline) :
      Turn watch moment (.ok true)
        (.again (watch.backoff.pauseLength (moment.clock 0) moment.jitter)
          { watch with backoff := watch.backoff.doubled })
  | late (late : watch.backoff.deadline ≤ moment.clock 0) :
      Turn watch moment (.ok true)
        (.failed (.timeout watch.key (watch.backoff.waited (moment.clock 1))))
  | failed (error : StoreError) :
      Turn watch moment (.error error) (.failed (.unavailable watch.key error))

variable (watch moment) in
theorem turn_next (reply : Lease.Reply) : watch.Turn moment reply (watch.next reply moment) := by
  rcases reply with error | held
  · exact .failed error
  · cases held with
    | false =>
        cases others : watch.others with
        | nil =>
            simp only [next, others]
            exact .last others
        | cons key more =>
            simp only [next, others]
            exact .more others
    | true =>
        rcases Nat.lt_or_ge (moment.clock 0).nanos watch.backoff.deadline.nanos with
          early | late
        · simp only [next, Backoff.pause?_of_early early]
          exact .held early
        · simp only [next, Backoff.pause?_of_late late]
          exact .late late

end Watch

/-! ## The steps of an acquisition -/

namespace Acquisition

variable {acquisition : Acquisition} {moment : Moment}

/-- How long a wait for the key itself is reported to have been: under a guard that makes the
acquisition begin again, as long as all of it took. -/
def reported (acquisition : Acquisition) (attempt : Attempt) (moment : Moment) : Duration :=
  match acquisition.guard with
  | .unlessHeld _ => acquisition.overall.waited (moment.clock 2)
  | _ => attempt.backoff.waited (moment.clock 1)

/-- How an acquisition fails after it has given its key back. -/
def told (acquisition : Acquisition) (failure : Failure) (moment : Moment) : Failure :=
  match acquisition.guard with
  | .untilFree _ => withWaited failure (acquisition.overall.waited (moment.clock 0))
  | _ => failure

/-- The steps that an answer can bring about. -/
inductive Turn (acquisition : Acquisition) (moment : Moment) :
    Lease.Call → Lease.Reply → Acquisition → Prop where
  | granted {attempt : Attempt} (phase : acquisition.phase = .taking attempt) :
      Turn acquisition moment attempt.call (.ok true)
        (acquisition.into (acquisition.taken attempt.token moment))
  | refused {attempt : Attempt} (phase : acquisition.phase = .taking attempt)
      (early : moment.clock 0 < attempt.backoff.deadline) :
      Turn acquisition moment attempt.call (.ok false)
        (acquisition.into
          (.retrying (attempt.backoff.pauseLength (moment.clock 0) moment.jitter)
            { attempt with backoff := attempt.backoff.doubled }))
  | refusedLate {attempt : Attempt} (phase : acquisition.phase = .taking attempt)
      (late : attempt.backoff.deadline ≤ moment.clock 0) :
      Turn acquisition moment attempt.call (.ok false)
        (acquisition.into
          (.failed (.timeout attempt.key (acquisition.reported attempt moment))))
  | claimFailed {attempt : Attempt} {error : StoreError}
      (phase : acquisition.phase = .taking attempt) :
      Turn acquisition moment attempt.call (.error error)
        (acquisition.into (.failed (.unavailable attempt.key error)))
  | blockerFree {token blocker : String} (phase : acquisition.phase = .checking token blocker) :
      Turn acquisition moment (.check blocker) (.ok false)
        (acquisition.into (.acquired token))
  | blockerHeld {token blocker : String} (phase : acquisition.phase = .checking token blocker) :
      Turn acquisition moment (.check blocker) (.ok true)
        (acquisition.into (.yielding token blocker))
  | blockerFailed {token blocker : String} {error : StoreError}
      (phase : acquisition.phase = .checking token blocker) :
      Turn acquisition moment (.check blocker) (.error error)
        (acquisition.into (.retreating token (.unavailable blocker error)))
  | yielded {token blocker : String} {reply : Lease.Reply}
      (phase : acquisition.phase = .yielding token blocker)
      (early : moment.clock 0 < acquisition.overall.deadline) :
      Turn acquisition moment (.revoke acquisition.key token) reply
        { acquisition with
          overall := acquisition.overall.doubled
          phase := .resting (acquisition.overall.pauseLength (moment.clock 0) moment.jitter) }
  | yieldedLate {token blocker : String} {reply : Lease.Reply}
      (phase : acquisition.phase = .yielding token blocker)
      (late : acquisition.overall.deadline ≤ moment.clock 0) :
      Turn acquisition moment (.revoke acquisition.key token) reply
        (acquisition.into
          (.failed (.timeout blocker (acquisition.overall.waited (moment.clock 1)))))
  | lookedLast {token : String} {watch : Watch}
      (phase : acquisition.phase = .watching token watch) (last : watch.others = []) :
      Turn acquisition moment watch.call (.ok false) (acquisition.into (.acquired token))
  | lookedOn {token : String} {watch : Watch} {key : String} {others : List String}
      (phase : acquisition.phase = .watching token watch) (more : watch.others = key :: others) :
      Turn acquisition moment watch.call (.ok false)
        (acquisition.into (.watching token { watch with key := key, others := others }))
  | lookedHeld {token : String} {watch : Watch}
      (phase : acquisition.phase = .watching token watch)
      (early : moment.clock 0 < watch.backoff.deadline) :
      Turn acquisition moment watch.call (.ok true)
        (acquisition.into
          (.lingering token (watch.backoff.pauseLength (moment.clock 0) moment.jitter)
            { watch with backoff := watch.backoff.doubled }))
  | lookedLate {token : String} {watch : Watch}
      (phase : acquisition.phase = .watching token watch)
      (late : watch.backoff.deadline ≤ moment.clock 0) :
      Turn acquisition moment watch.call (.ok true)
        (acquisition.into
          (.retreating token (.timeout watch.key (watch.backoff.waited (moment.clock 1)))))
  | lookFailed {token : String} {watch : Watch} {error : StoreError}
      (phase : acquisition.phase = .watching token watch) :
      Turn acquisition moment watch.call (.error error)
        (acquisition.into (.retreating token (.unavailable watch.key error)))
  | retreated {token : String} {failure : Failure} {reply : Lease.Reply}
      (phase : acquisition.phase = .retreating token failure) :
      Turn acquisition moment (.revoke acquisition.key token) reply
        (acquisition.into (.failed (acquisition.told failure moment)))

theorem turn_of_taking {attempt : Attempt} (phase : acquisition.phase = .taking attempt)
    (reply : Lease.Reply) :
    acquisition.Turn moment attempt.call reply (acquisition.answered reply moment) := by
  rcases reply with error | granted
  · have fails : acquisition.answered (.error error) moment =
        acquisition.into (.failed (.unavailable attempt.key error)) := by
      cases guard : acquisition.guard <;>
        simp [answered, phase, guard, Attempt.next, withWaited]
    rw [fails]
    exact .claimFailed phase
  · cases granted with
    | true =>
        have takes : acquisition.answered (.ok true) moment =
            acquisition.into (acquisition.taken attempt.token moment) := by
          simp only [answered, phase, Attempt.next]
        rw [takes]
        exact .granted phase
    | false =>
        rcases Nat.lt_or_ge (moment.clock 0).nanos attempt.backoff.deadline.nanos with
          early | late
        · simp only [answered, phase, Attempt.next_of_early early]
          exact .refused phase early
        · have fails : acquisition.answered (.ok false) moment =
              acquisition.into
                (.failed (.timeout attempt.key (acquisition.reported attempt moment))) := by
            cases guard : acquisition.guard <;>
              simp [answered, phase, guard, reported, withWaited, Attempt.next_of_late late]
          rw [fails]
          exact .refusedLate phase late

theorem turn_of_watching {token : String} {watch : Watch}
    (phase : acquisition.phase = .watching token watch) (reply : Lease.Reply) :
    acquisition.Turn moment watch.call reply (acquisition.answered reply moment) := by
  have turn := watch.turn_next moment reply
  simp only [answered, phase]
  generalize watch.next reply moment = next at turn
  cases turn with
  | last last => exact .lookedLast phase last
  | more more => exact .lookedOn phase more
  | held early => exact .lookedHeld phase early
  | late late => exact .lookedLate phase late
  | failed error => exact .lookFailed phase

theorem turn_of_yielding {token blocker : String}
    (phase : acquisition.phase = .yielding token blocker) (reply : Lease.Reply) :
    acquisition.Turn moment (.revoke acquisition.key token) reply
      (acquisition.answered reply moment) := by
  rcases Nat.lt_or_ge (moment.clock 0).nanos acquisition.overall.deadline.nanos with early | late
  · simp only [answered, phase, Backoff.pause?_of_early early]
    exact .yielded phase early
  · simp only [answered, phase, Backoff.pause?_of_late late]
    exact .yieldedLate phase late

/-- Every answer to the call that was needed brings about one of the steps. -/
theorem turn_answered {call : Lease.Call} (need : acquisition.need? = some (.call call))
    (reply : Lease.Reply) : acquisition.Turn moment call reply (acquisition.answered reply moment) := by
  unfold need? at need
  cases phase : acquisition.phase <;> simp only [phase] at need <;> cases need
  case taking attempt => exact turn_of_taking phase reply
  case checking token blocker =>
      rcases reply with error | held
      · simp only [answered, phase]
        exact .blockerFailed phase
      · cases held with
        | true =>
            simp only [answered, phase]
            exact .blockerHeld phase
        | false =>
            simp only [answered, phase]
            exact .blockerFree phase
  case yielding token blocker => exact turn_of_yielding phase reply
  case watching token watch => exact turn_of_watching phase reply
  case retreating token failure =>
      have fails : acquisition.answered reply moment =
          acquisition.into (.failed (acquisition.told failure moment)) := by
        cases guard : acquisition.guard <;> simp [answered, phase, guard, told]
      rw [fails]
      exact .retreated phase

end Acquisition

end Coedit.Lock
