import Coedit.Lock.Backoff
import Mathlib.Algebra.Group.Nat.Defs

/-!
# The pauses of a wait

The first pause has the initial length, and each is twice as long as the one before until
they have the longest one; jitter comes on top, and no pause reaches past the deadline.  If
there is room to double the longest pause, no length on the way is too long to be told.
-/

namespace Coedit

/-! ## Lengths that can be told -/

namespace Duration

variable {shorter longer : Duration}

/-- Whether sixty-four bits are enough for the whole seconds of a duration. -/
def Fits (duration : Duration) : Prop := duration.secs < 2 ^ 64

theorem Fits.of_le (fits : longer.Fits) (less : shorter ≤ longer) : shorter.Fits :=
  Nat.lt_of_le_of_lt (Nat.div_le_div_right less) fits

end Duration

namespace Lock

namespace Settings

variable {settings : Settings}

/-- Settings that are in order begin with a pause that takes time. -/
theorem initialBackoff_pos (valid : settings.validate = .ok ()) :
    0 < settings.initialBackoff.nanos := by
  unfold validate at valid
  split at valid
  · cases valid
  · split at valid
    · cases valid
    · next lasting =>
        apply Nat.pos_of_ne_zero
        simpa [Duration.isZero] using lasting

/-- Settings that are in order begin with a pause that is not longer than the longest. -/
theorem initialBackoff_le_maxBackoff (valid : settings.validate = .ok ()) :
    settings.initialBackoff ≤ settings.maxBackoff := by
  unfold validate at valid
  repeat' split at valid
  all_goals cases valid
  next ordered => exact Nat.le_of_not_lt ordered

/-- Whether the longest pause can be doubled, and can be made longer by any jitter of less
than ten milliseconds. -/
structure Roomy (settings : Settings) : Prop where
  double : settings.maxBackoff.double.Fits
  jitter (jitter : Duration) (brief : jitter < .ofMillis 10) : (settings.maxBackoff + jitter).Fits

end Settings

namespace Backoff

variable {backoff : Backoff} {now : Instant} {jitter : Duration}

/-! ## One wait -/

theorem nanos_delay_doubled :
    backoff.doubled.delay.nanos = min (backoff.delay.nanos * 2) backoff.limit.nanos := rfl

theorem nanos_pauseLength :
    (backoff.pauseLength now jitter).nanos =
      min (backoff.delay.nanos + jitter.nanos) (backoff.deadline.nanos - now.nanos) := rfl

/-- Before the deadline there is a pause, and the next one will be twice as long. -/
theorem pause?_of_early (early : now < backoff.deadline) :
    backoff.pause? now jitter = some (backoff.pauseLength now jitter, backoff.doubled) :=
  if_neg (Nat.not_le_of_lt early)

/-- From the deadline on there are no pauses. -/
theorem pause?_of_late (late : backoff.deadline ≤ now) : backoff.pause? now jitter = none :=
  if_pos late

theorem pause?_eq_none_iff : backoff.pause? now jitter = none ↔ backoff.deadline ≤ now := by
  simp [pause?]

/-- A pause takes time as long as the delay does. -/
theorem pauseLength_pos (early : now < backoff.deadline) (lasting : 0 < backoff.delay.nanos) :
    0 < (backoff.pauseLength now jitter).nanos := by
  rw [nanos_pauseLength]
  rw [Instant.lt_iff] at early
  omega

/-- No pause reaches past the deadline. -/
theorem later_pauseLength_le (early : now < backoff.deadline) :
    now.later (backoff.pauseLength now jitter) ≤ backoff.deadline := by
  rw [Instant.le_iff, Instant.nanos_later, nanos_pauseLength]
  rw [Instant.lt_iff] at early
  omega

/-- The backoff after a wait.  A wait that comes too late changes nothing. -/
def next (backoff : Backoff) (now : Instant) (jitter : Duration) : Backoff :=
  match backoff.pause? now jitter with
  | some (_, after) => after
  | none => backoff

theorem next_of_early (early : now < backoff.deadline) :
    backoff.next now jitter = backoff.doubled := by
  rw [next, pause?_of_early early]

theorem next_of_late (late : backoff.deadline ≤ now) : backoff.next now jitter = backoff := by
  rw [next, pause?_of_late late]

/-- A wait leaves the deadline and the longest pause as they are. -/
theorem next_beside :
    (backoff.next now jitter).deadline = backoff.deadline ∧
      (backoff.next now jitter).limit = backoff.limit := by
  rcases Nat.lt_or_ge now.nanos backoff.deadline.nanos with early | late
  · rw [next_of_early early]
    exact ⟨rfl, rfl⟩
  · rw [next_of_late late]
    exact ⟨rfl, rfl⟩

/-- The delay never shrinks, and never becomes longer than the longest pause. -/
theorem delay_next (bounded : backoff.delay ≤ backoff.limit) :
    backoff.delay ≤ (backoff.next now jitter).delay ∧
      (backoff.next now jitter).delay ≤ backoff.limit := by
  rcases Nat.lt_or_ge now.nanos backoff.deadline.nanos with early | late
  · rw [next_of_early early]
    simp only [Duration.le_iff, nanos_delay_doubled] at bounded ⊢
    omega
  · rw [next_of_late late]
    exact ⟨Nat.le_refl _, bounded⟩

/-! ## Many waits -/

/-- The backoff after so many waits, given what the clock reads and the jitter of each. -/
def after (backoff : Backoff) (now : Nat → Instant) (jitter : Nat → Duration) : Nat → Backoff
  | 0 => backoff
  | count + 1 => (backoff.after now jitter count).next (now count) (jitter count)

section Waits

variable {now : Nat → Instant} {jitter : Nat → Duration}

/-- What a clock that never goes back reads later is no earlier. -/
theorem le_of_onward (onward : ∀ count, now count ≤ now (count + 1)) {few many : Nat}
    (le : few ≤ many) : now few ≤ now many := by
  induction le with
  | refl => exact Nat.le_refl _
  | @step many _ ih => exact Nat.le_trans ih (onward many)

theorem after_beside (count : Nat) :
    (backoff.after now jitter count).deadline = backoff.deadline ∧
      (backoff.after now jitter count).limit = backoff.limit := by
  induction count with
  | zero => exact ⟨rfl, rfl⟩
  | succ count ih =>
      have beside := @next_beside (backoff.after now jitter count) (now count) (jitter count)
      exact ⟨beside.1.trans ih.1, beside.2.trans ih.2⟩

theorem delay_after_le (bounded : backoff.delay ≤ backoff.limit) (count : Nat) :
    (backoff.after now jitter count).delay ≤ backoff.limit := by
  induction count with
  | zero => exact bounded
  | succ count ih =>
      have same := (@after_beside backoff now jitter count).2
      rw [← same] at ih ⊢
      exact (delay_next ih).2

theorem delay_after_mono (bounded : backoff.delay ≤ backoff.limit) {few many : Nat}
    (le : few ≤ many) :
    (backoff.after now jitter few).delay ≤ (backoff.after now jitter many).delay := by
  induction le with
  | refl => exact Nat.le_refl _
  | @step many _ ih =>
      have inside : (backoff.after now jitter many).delay ≤
          (backoff.after now jitter many).limit := by
        rw [(@after_beside backoff now jitter many).2]
        exact delay_after_le bounded many
      exact Nat.le_trans ih (delay_next inside).1

/-- While no wait comes too late, the delay doubles up to the longest pause. -/
theorem delay_after (bounded : backoff.delay ≤ backoff.limit) {count : Nat}
    (early : ∀ earlier < count, now earlier < backoff.deadline) :
    (backoff.after now jitter count).delay.nanos =
      min (backoff.delay.nanos * 2 ^ count) backoff.limit.nanos := by
  induction count with
  | zero =>
      rw [Nat.pow_zero, Nat.mul_one]
      exact (Nat.min_eq_left bounded).symm
  | succ count ih =>
      have beside := @after_beside backoff now jitter count
      have paused : now count < (backoff.after now jitter count).deadline := by
        rw [beside.1]
        exact early count (Nat.lt_succ_self count)
      have doubled := ih fun earlier less => early earlier (Nat.lt_succ_of_lt less)
      rw [after, next_of_early paused, nanos_delay_doubled, doubled, beside.2, Nat.pow_succ,
        ← Nat.mul_assoc]
      omega

/-- Before the deadline each wait is a pause that takes time and does not reach past the
deadline, and its length is told by its number. -/
theorem pause?_after (bounded : backoff.delay ≤ backoff.limit) (lasting : 0 < backoff.delay.nanos)
    (onward : ∀ count, now count ≤ now (count + 1)) {count : Nat}
    (early : now count < backoff.deadline) :
    ∃ pause,
      (backoff.after now jitter count).pause? (now count) (jitter count) =
        some (pause, backoff.after now jitter (count + 1)) ∧
      pause.nanos =
        min (min (backoff.delay.nanos * 2 ^ count) backoff.limit.nanos + (jitter count).nanos)
          (backoff.deadline.nanos - (now count).nanos) ∧
      0 < pause.nanos ∧ (now count).later pause ≤ backoff.deadline := by
  have same := (@after_beside backoff now jitter count).1
  have paused : now count < (backoff.after now jitter count).deadline := same ▸ early
  -- the clock never goes back, so none of the waits before this one came too late
  have before (earlier : Nat) (less : earlier < count) : now earlier < backoff.deadline :=
    Nat.lt_of_le_of_lt (le_of_onward onward (Nat.le_of_lt less)) early
  refine ⟨(backoff.after now jitter count).pauseLength (now count) (jitter count), ?_, ?_, ?_, ?_⟩
  · rw [pause?_of_early paused]
    exact congrArg (fun next => some (_, next)) (next_of_early paused).symm
  · rw [nanos_pauseLength, same, delay_after bounded before]
  · apply pauseLength_pos paused
    exact Nat.lt_of_lt_of_le lasting (delay_after_mono bounded (Nat.zero_le count))
  · exact same ▸ later_pauseLength_le paused

end Waits

/-! ## The schedule -/

/-- The waits of a backoff under a clock that never goes back.  Wait number `count` is the
pause of that number if the deadline has not come; from the deadline on there are no pauses,
and the delay stays what it is. -/
theorem schedule {settings : Settings} (valid : settings.validate = .ok ())
    (roomy : settings.Roomy) (began : Instant) (maxWait : Duration) {now : Nat → Instant}
    (onward : ∀ count, now count ≤ now (count + 1)) {jitter : Nat → Duration}
    (brief : ∀ count, jitter count < .ofMillis 10) (count : Nat) :
    let waits := (start settings began maxWait).after now jitter
    let deadline := began.later maxWait
    -- before the deadline there is a pause, of this length
    (now count < deadline → ∃ pause,
      (waits count).pause? (now count) (jitter count) = some (pause, waits (count + 1)) ∧
        pause.nanos =
          min (min (settings.initialBackoff.nanos * 2 ^ count) settings.maxBackoff.nanos +
              (jitter count).nanos)
            (deadline.nanos - (now count).nanos) ∧
        0 < pause.nanos ∧ (now count).later pause ≤ deadline) ∧
    -- and from the deadline on there is none
    ((waits count).pause? (now count) (jitter count) = none ↔ deadline ≤ now count) ∧
    (deadline ≤ now count → waits (count + 1) = waits count) ∧
    -- the delay stays between the two and never shrinks
    (settings.initialBackoff ≤ (waits count).delay ∧
      (waits count).delay ≤ settings.maxBackoff) ∧
    (∀ later, count ≤ later → (waits count).delay ≤ (waits later).delay ∧
      ((waits count).delay = settings.maxBackoff →
        (waits later).delay = settings.maxBackoff)) ∧
    -- nothing that is computed on the way is too long to be told
    ((waits count).delay + jitter count).Fits ∧ (waits count).delay.double.Fits := by
  intro waits deadline
  have bounded : (start settings began maxWait).delay ≤ (start settings began maxWait).limit :=
    Settings.initialBackoff_le_maxBackoff valid
  have same : (waits count).deadline = deadline :=
    (@after_beside (start settings began maxWait) now jitter count).1
  have below (number : Nat) : (waits number).delay ≤ settings.maxBackoff :=
    delay_after_le bounded number
  refine ⟨?_, ?_, ?_, ⟨?_, below count⟩, ?_, ?_, ?_⟩
  · exact pause?_after bounded (Settings.initialBackoff_pos valid) onward
  · rw [pause?_eq_none_iff, same]
  · intro late
    exact next_of_late (same.symm ▸ late)
  · exact delay_after_mono bounded (Nat.zero_le count)
  · intro later le
    have grown : (waits count).delay ≤ (waits later).delay := delay_after_mono bounded le
    refine ⟨grown, ?_⟩
    intro longest
    rw [longest] at grown
    exact congrArg Duration.mk (Nat.le_antisymm (below later) grown)
  · apply (roomy.jitter (jitter count) (brief count)).of_le
    exact Nat.add_le_add_right (below count) _
  · apply roomy.double.of_le
    exact Nat.mul_le_mul_right 2 (below count)

/-- Pauses of ten milliseconds at first and of twenty-five at most. -/
def brisk : Settings := ⟨.ofSecs 1, .ofMillis 10, .ofMillis 25⟩

/-- A clock that reads thirty milliseconds more at each wait. -/
def strides (count : Nat) : Instant := ⟨count * 30000000⟩

/-- The third of these pauses is not four times as long as the first, since that is more than
the longest one; and a fourth wait would come too late. -/
theorem schedule_brisk :
    brisk.validate = .ok () ∧ brisk.Roomy ∧
      (∃ pause after, ((start brisk ⟨0⟩ (.ofMillis 90)).after strides
          (fun count => .ofMillis (count % 10)) 2).pause? (strides 2) (.ofMillis 2) =
            some (pause, after) ∧
        pause.nanos = 27000000) ∧
      ((start brisk ⟨0⟩ (.ofMillis 90)).after strides
        (fun count => .ofMillis (count % 10)) 3).pause? (strides 3) (.ofMillis 3) = none := by
  have valid : brisk.validate = .ok () := rfl
  have roomy : brisk.Roomy := by
    constructor
    · unfold Duration.Fits
      decide
    · intro jitter brief
      have fits : (brisk.maxBackoff + .ofMillis 10).Fits := by
        unfold Duration.Fits
        decide
      exact fits.of_le (Nat.add_le_add_left (Nat.le_of_lt brief) _)
  have onward (count : Nat) : strides count ≤ strides (count + 1) :=
    Nat.mul_le_mul_right _ (Nat.le_succ count)
  have brief (count : Nat) : Duration.ofMillis (count % 10) < .ofMillis 10 := by
    simp only [Duration.lt_iff, Duration.ofMillis]
    omega
  have third := schedule valid roomy ⟨0⟩ (.ofMillis 90) onward brief 2
  have fourth := schedule valid roomy ⟨0⟩ (.ofMillis 90) onward brief 3
  obtain ⟨pause, pauses, length, -⟩ := third.1 (by decide)
  exact ⟨valid, roomy, ⟨pause, _, pauses, length⟩, fourth.2.1.mpr (by decide)⟩

end Backoff

end Lock

end Coedit
