import Coedit.Site

/-!
# Holding a key

From when to when an operation holds the key it locks: from the claim that the
store grants to the answer of the store to giving it back.  Between these two the
operation looks at other keys and runs its body, and nobody but itself may give its
key back.
-/

namespace Coedit

namespace Lock

/-- The token of the present attempt, whether the key was had under it or not. -/
def Phase.token? : Phase → Option String
  | .taking attempt => some attempt.token
  | .retrying _ attempt => some attempt.token
  | .checking token _ => some token
  | .yielding token _ => some token
  | .resting _ => none
  | .watching token _ => some token
  | .lingering token _ _ => some token
  | .retreating token _ => some token
  | .acquired token => some token
  | .failed _ => none

/-- The token under which the key is held.  An answer of the store that has yet to
arrive counts: a granted claim begins the hold, and an answer to giving the key back
ends it. -/
def Phase.holds? (reply : Option Lease.Reply) : Phase → Option String
  | .taking attempt =>
      match reply with
      | some (.ok true) => some attempt.token
      | _ => none
  | .checking token _ => some token
  | .watching token _ => some token
  | .lingering token _ _ => some token
  | .acquired token => some token
  | .yielding token _ => if reply.isSome then none else some token
  | .retreating token _ => if reply.isSome then none else some token
  | .retrying _ _ => none
  | .resting _ => none
  | .failed _ => none

theorem Phase.token?_of_holds? {phase : Phase} {reply : Option Lease.Reply} {token : String}
    (holds : phase.holds? reply = some token) : phase.token? = some token := by
  cases phase <;> grind [Phase.holds?, Phase.token?]

namespace Acquisition

/-- What the phase of an acquisition has to do with its key and its guard. -/
def Sound (acquisition : Acquisition) : Prop :=
  match acquisition.phase with
  | .taking attempt => attempt.key = acquisition.key
  | .retrying _ attempt => attempt.key = acquisition.key
  | .checking _ blocker => acquisition.guard = .unlessHeld blocker
  | .yielding _ blocker => acquisition.guard = .unlessHeld blocker
  | .watching _ _ => ∃ keys, acquisition.guard = .untilFree keys
  | .lingering _ _ _ => ∃ keys, acquisition.guard = .untilFree keys
  | _ => True

variable {acquisition : Acquisition}

@[simp] theorem key_into (phase : Phase) : (acquisition.into phase).key = acquisition.key := rfl

@[simp] theorem guard_into (phase : Phase) :
    (acquisition.into phase).guard = acquisition.guard := rfl

@[simp] theorem phase_into (phase : Phase) : (acquisition.into phase).phase = phase := rfl

@[simp] theorem key_answered (reply : Lease.Reply) (moment : Moment) :
    (acquisition.answered reply moment).key = acquisition.key := by
  unfold answered
  repeat' split
  all_goals rfl

@[simp] theorem guard_answered (reply : Lease.Reply) (moment : Moment) :
    (acquisition.answered reply moment).guard = acquisition.guard := by
  unfold answered
  repeat' split
  all_goals rfl

@[simp] theorem key_rested (moment : Moment) :
    (acquisition.rested moment).key = acquisition.key := by
  unfold rested claiming
  split <;> rfl

@[simp] theorem guard_rested (moment : Moment) :
    (acquisition.rested moment).guard = acquisition.guard := by
  unfold rested claiming
  split <;> rfl

@[simp] theorem key_start (key : String) (guard : Guard) (settings : Settings)
    (maxWait : Duration) (moment : Moment) :
    (start key guard settings maxWait moment).key = key := rfl

@[simp] theorem guard_start (key : String) (guard : Guard) (settings : Settings)
    (maxWait : Duration) (moment : Moment) :
    (start key guard settings maxWait moment).guard = guard := rfl

theorem sound_start (key : String) (guard : Guard) (settings : Settings) (maxWait : Duration)
    (moment : Moment) : (start key guard settings maxWait moment).Sound := rfl

theorem sound_rested (sound : acquisition.Sound) (moment : Moment) :
    (acquisition.rested moment).Sound := by
  unfold rested
  cases phase : acquisition.phase <;>
    simp only [Sound, phase, phase_into, key_into, guard_into] at sound ⊢ <;>
    first | exact sound | rfl

theorem sound_answered (sound : acquisition.Sound) (reply : Lease.Reply) (moment : Moment) :
    (acquisition.answered reply moment).Sound := by
  unfold answered
  split
  case h_1 attempt phase =>
      simp only [Sound, phase] at sound
      split
      · simp only [Sound, phase_into, guard_into, taken]
        repeat' split
        all_goals grind
      · next pause again next =>
          have sameKey : again.key = attempt.key := by
            unfold Attempt.next at next
            repeat' split at next
            all_goals cases next
            rfl
          simpa [Sound, sameKey] using sound
      · split <;> trivial
  case h_2 token blocker phase =>
      simp only [Sound, phase] at sound
      repeat' split
      all_goals simp [Sound, sound]
  case h_3 => split <;> trivial
  case h_4 token watch phase =>
      simp only [Sound, phase] at sound
      split <;> simp [Sound, sound]
  case h_5 => split <;> trivial
  case h_6 => exact sound

/-- Whether an answer is on its way or has arrived makes no difference to a hold. -/
theorem holds?_answered (reply : Lease.Reply) (moment : Moment) :
    (acquisition.answered reply moment).phase.holds? none =
      acquisition.phase.holds? (some reply) := by
  unfold answered
  split
  case h_1 attempt phase =>
      simp only [phase, Attempt.next, taken]
      rcases reply with error | granted
      · cases acquisition.guard <;> rfl
      · cases granted with
        | true =>
            cases acquisition.guard with
            | unguarded => rfl
            | unlessHeld blocker => rfl
            | untilFree keys => cases keys <;> rfl
        | false =>
            cases attempt.backoff.pause? (moment.clock 0) moment.jitter with
            | some pause => rfl
            | none => cases acquisition.guard <;> rfl
  case h_2 token blocker phase =>
      repeat' split
      all_goals simp [phase, Phase.holds?]
  case h_3 token blocker phase => split <;> simp [phase, Phase.holds?]
  case h_4 token watch phase => split <;> simp [phase, Phase.holds?]
  case h_5 token failure phase => split <;> simp [phase, Phase.holds?]
  case h_6 => cases phase : acquisition.phase <;> simp_all [Phase.holds?]

/-- An answer never brings a new token. -/
theorem token?_answered {reply : Lease.Reply} {moment : Moment} {token : String}
    (found : (acquisition.answered reply moment).phase.token? = some token) :
    acquisition.phase.token? = some token := by
  unfold answered at found
  split at found
  case h_1 attempt phase =>
      simp only [phase, Phase.token?]
      split at found
      · simp only [phase_into, taken] at found
        repeat' split at found
        all_goals exact found
      · next pause again next =>
          unfold Attempt.next at next
          repeat' split at next
          all_goals cases next
          exact found
      · split at found <;> cases found
  case h_2 phase =>
      simp only [phase, Phase.token?]
      repeat' split at found
      all_goals exact found
  case h_3 => split at found <;> cases found
  case h_4 phase =>
      simp only [phase, Phase.token?]
      split at found <;> exact found
  case h_5 => split at found <;> cases found
  case h_6 => exact found

theorem holds?_rested (moment : Moment) :
    (acquisition.rested moment).phase.holds? none = acquisition.phase.holds? none := by
  unfold rested
  split
  all_goals simp_all [Phase.holds?, claiming]

/-- A pause brings no token but the new one. -/
theorem token?_rested {moment : Moment} {token : String}
    (found : (acquisition.rested moment).phase.token? = some token) :
    acquisition.phase.token? = some token ∨ token = moment.token := by
  unfold rested at found
  split at found
  all_goals simp_all [Phase.token?, claiming]

/-- An acquisition that has not ended makes calls of three kinds: it claims its own
key, gives it back, or looks at others. -/
theorem key_of_claim {key token : String} {ttl : Duration} (sound : acquisition.Sound)
    (need : acquisition.need? = some (.call (.claim key token ttl))) :
    key = acquisition.key ∧ acquisition.phase.token? = some token ∧
      ∀ reply held, acquisition.phase.holds? (some reply) = some held →
        reply = .ok true ∧ held = token := by
  unfold need? at need
  cases phase : acquisition.phase <;> simp only [phase] at need <;> cases need
  case taking attempt =>
      refine ⟨by simpa [Sound, phase] using sound, rfl, ?_⟩
      intro reply held holds
      rcases reply with error | granted
      · cases holds
      · cases granted <;> cases holds
        exact ⟨rfl, rfl⟩

theorem key_of_revoke {key token : String}
    (need : acquisition.need? = some (.call (.revoke key token))) :
    key = acquisition.key ∧ acquisition.phase.holds? none = some token ∧
      ∀ reply, acquisition.phase.holds? (some reply) = none := by
  unfold need? at need
  cases phase : acquisition.phase <;> simp only [phase] at need <;> cases need
  all_goals exact ⟨rfl, rfl, fun _ => rfl⟩

theorem holds?_of_check {key : String}
    (need : acquisition.need? = some (.call (.check key))) (reply : Option Lease.Reply) :
    acquisition.phase.holds? reply = acquisition.phase.holds? none := by
  unfold need? at need
  cases phase : acquisition.phase <;> simp only [phase] at need <;> cases need
  all_goals rfl

end Acquisition

end Lock

namespace Operation

variable {α ε : Type}

/-- The token of the present attempt at the operation's key. -/
def Phase.token? : Phase α ε → Option String
  | .acquiring acquisition => acquisition.phase.token?
  | .running token => some token
  | .releasing token _ => some token
  | .idle => none
  | .finished _ => none
  | .abandoned => none

/-- The token under which the operation holds its key, given the answer of the store
that has yet to arrive. -/
def Phase.holds? (reply : Option Lease.Reply) : Phase α ε → Option String
  | .acquiring acquisition => acquisition.phase.holds? reply
  | .running token => some token
  | .releasing token _ => if reply.isSome then none else some token
  | .idle => none
  | .finished _ => none
  | .abandoned => none

theorem Phase.token?_of_holds? {phase : Phase α ε} {reply : Option Lease.Reply}
    {token : String} (holds : phase.holds? reply = some token) :
    phase.token? = some token := by
  cases phase with
  | acquiring acquisition => exact Lock.Phase.token?_of_holds? holds
  | _ => grind [Phase.holds?, Phase.token?]

/-- An operation that acquires its lock goes for the key and the guard of its plan. -/
def Sound (operation : Operation α ε) : Prop :=
  ∀ acquisition, operation.phase = .acquiring acquisition →
    acquisition.key = operation.plan.key ∧ acquisition.guard = operation.plan.guard ∧
      acquisition.Sound

variable {operation : Operation α ε}

@[simp] theorem plan_follow (acquisition : Lock.Acquisition) :
    (operation.follow acquisition).plan = operation.plan := by
  unfold follow
  split <;> rfl

@[simp] theorem plan_begin (moment : Lock.Moment) :
    (operation.begin moment).plan = operation.plan := by
  unfold begin
  repeat' split
  all_goals rfl

@[simp] theorem plan_answered (reply : Lease.Reply) (moment : Lock.Moment) :
    (operation.answered reply moment).plan = operation.plan := by
  unfold answered
  split <;> simp

@[simp] theorem plan_rested (moment : Lock.Moment) :
    (operation.rested moment).plan = operation.plan := by
  unfold rested
  split <;> simp

@[simp] theorem plan_bodyEnded (ending : Ending α ε) :
    (operation.bodyEnded ending).plan = operation.plan := by
  unfold bodyEnded
  split <;> rfl

@[simp] theorem plan_cancel : operation.cancel.2.plan = operation.plan := by
  unfold cancel
  split <;> rfl

@[simp] theorem phase_cancel : operation.cancel.2.phase = operation.phase := by
  unfold cancel
  split <;> rfl

/-- Following an acquisition, an operation holds what the acquisition holds. -/
theorem holds?_follow (acquisition : Lock.Acquisition) :
    (operation.follow acquisition).phase.holds? none = acquisition.phase.holds? none := by
  unfold follow Lock.Acquisition.result?
  cases phase : acquisition.phase <;> simp [Phase.holds?, Lock.Phase.holds?, phase]

theorem token?_follow (acquisition : Lock.Acquisition) :
    (operation.follow acquisition).phase.token? = acquisition.phase.token? := by
  unfold follow Lock.Acquisition.result?
  cases phase : acquisition.phase <;> simp [Phase.token?, Lock.Phase.token?, phase]

theorem sound_follow {acquisition : Lock.Acquisition}
    (key : acquisition.key = operation.plan.key)
    (guard : acquisition.guard = operation.plan.guard) (sound : acquisition.Sound) :
    (operation.follow acquisition).Sound := by
  unfold follow
  intro other phase
  split at phase <;> cases phase
  exact ⟨key, guard, sound⟩

/-- An operation claims no key but its own, and holds it just if the store says so. -/
theorem key_of_claim {key token : String} {ttl : Duration} (sound : operation.Sound)
    (need : operation.need? = some (.lock (.call (.claim key token ttl)))) :
    key = operation.plan.key ∧
      ∀ reply held, operation.phase.holds? (some reply) = some held →
        reply = .ok true ∧ held = token := by
  unfold need? at need
  cases phase : operation.phase <;> simp only [phase] at need
  case acquiring acquisition =>
      obtain ⟨keyEqual, -, inner⟩ := sound acquisition phase
      have need : acquisition.need? = some (.call (.claim key token ttl)) := by
        simpa using need
      obtain ⟨own, -, granted⟩ := Lock.Acquisition.key_of_claim inner need
      exact ⟨own.trans keyEqual, granted⟩
  all_goals cases need

/-- What an operation gives back it has held until then. -/
theorem holds?_of_revoke {key token : String}
    (need : operation.need? = some (.lock (.call (.revoke key token)))) :
    operation.phase.holds? none = some token ∧
      ∀ reply, operation.phase.holds? (some reply) = none := by
  unfold need? at need
  cases phase : operation.phase <;> simp only [phase] at need
  case acquiring acquisition =>
      have need : acquisition.need? = some (.call (.revoke key token)) := by
        simpa using need
      obtain ⟨-, held, gone⟩ := Lock.Acquisition.key_of_revoke need
      exact ⟨held, gone⟩
  case releasing held ending =>
      cases need
      exact ⟨rfl, fun _ => rfl⟩
  all_goals cases need

/-- Looking at a key neither begins nor ends a hold. -/
theorem holds?_of_check {key : String}
    (need : operation.need? = some (.lock (.call (.check key)))) (reply : Option Lease.Reply) :
    operation.phase.holds? reply = operation.phase.holds? none := by
  unfold need? at need
  cases phase : operation.phase <;> simp only [phase] at need
  case acquiring acquisition =>
      have need : acquisition.need? = some (.call (.check key)) := by
        simpa using need
      exact Lock.Acquisition.holds?_of_check need reply
  all_goals cases need

end Operation

end Coedit
