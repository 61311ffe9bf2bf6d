import Coedit.Proofs.Site.Holding

/-!
# The life of an operation

What can happen to one operation, in any order: it goes on step by step while the store
answers as it likes and the body ends as it likes, and somebody may cancel it, give it up
or wait for it at any time.  Nothing is assumed of clocks, tokens or answers.
-/

namespace Coedit

/-- No acquisition ends with a pause. -/
theorem Lock.Acquisition.result?_rested {acquisition : Lock.Acquisition} {pause : Duration}
    (need : acquisition.need? = some (.pause pause)) (moment : Lock.Moment) :
    (acquisition.rested moment).result? = none := by
  unfold need? at need
  unfold rested result?
  cases phase : acquisition.phase <;> simp only [phase] at need <;> cases need <;> rfl

namespace Operation

variable {α ε : Type}

/-- An operation, and what whoever waited for it was told. -/
structure Ticket (α ε : Type) where
  operation : Operation α ε
  told : Option (Except (Failure ε) α)

/-- What can happen to an operation. -/
inductive Event (α ε : Type) where
  | begun (moment : Lock.Moment)
  /-- The call that was needed has been made and answered. -/
  | answered (call : Lease.Call) (reply : Lease.Reply) (moment : Lock.Moment)
  | rested (moment : Lock.Moment)
  | ended (ending : Ending α ε)
  | cancelled
  /-- The task that carries the operation is aborted. -/
  | givenUp
  /-- Somebody waits for the result, and is told if the task has ended. -/
  | awaited

/-- The call that was made at an event, and its answer. -/
def Event.call? : Event α ε → Option (Lease.Call × Lease.Reply)
  | .answered call reply _ => some (call, reply)
  | _ => none

namespace Ticket

/-- The ticket after an event. -/
def after (ticket : Ticket α ε) : Event α ε → Ticket α ε
  | .begun moment => { ticket with operation := ticket.operation.begin moment }
  | .answered _ reply moment => { ticket with operation := ticket.operation.answered reply moment }
  | .rested moment => { ticket with operation := ticket.operation.rested moment }
  | .ended ending => { ticket with operation := ticket.operation.bodyEnded ending }
  | .cancelled => { ticket with operation := ticket.operation.cancel.2 }
  | .givenUp => { ticket with operation := ticket.operation.abandon.2 }
  | .awaited =>
      match ticket.operation.phase with
      | .finished result => { ticket with told := some result }
      | .abandoned => ⟨ticket.operation.cutOff.2, some ticket.operation.cutOff.1⟩
      | _ => ticket

/-- Whether an event is one that the operation waits for, or that does not ask. -/
def Permits (ticket : Ticket α ε) : Event α ε → Prop
  | .begun _ => ticket.operation.need? = some .start
  | .answered call _ _ => ticket.operation.need? = some (.lock (.call call))
  | .rested _ => ∃ pause, ticket.operation.need? = some (.lock (.pause pause))
  | .ended _ => ticket.operation.need? = some .body
  | .cancelled | .givenUp | .awaited => True

/-- All states so far, in order. -/
def history (ticket : Ticket α ε) : List State := ticket.operation.tracker.history

def state (ticket : Ticket α ε) : State := ticket.operation.tracker.state

end Ticket

/-- The lives of an operation, each with the events so far and the tickets they came upon,
latest first. -/
inductive Life (start : Operation α ε) :
    List (Ticket α ε × Event α ε) → Ticket α ε → Prop where
  | start : Life start [] ⟨start, none⟩
  | event {path : List (Ticket α ε × Event α ε)} {ticket : Ticket α ε} {event : Event α ε}
      (life : Life start path ticket) (permitted : ticket.Permits event) :
      Life start ((ticket, event) :: path) (ticket.after event)

/-- The calls that were made, latest first, each with its answer. -/
def calls (path : List (Ticket α ε × Event α ε)) : List (Lease.Call × Lease.Reply) :=
  path.filterMap fun step => step.2.call?

/-- Whether the body starts at an event. -/
def starts (step : Ticket α ε × Event α ε) : Bool :=
  step.1.operation.need? != some .body && (step.1.after step.2).operation.need? == some .body

@[simp] theorem calls_nil : calls ([] : List (Ticket α ε × Event α ε)) = [] := rfl

theorem calls_cons (step : Ticket α ε × Event α ε) (path : List (Ticket α ε × Event α ε)) :
    calls (step :: path) = step.2.call?.toList ++ calls path := by
  unfold calls
  cases call : step.2.call? <;> simp [call]

/-! ## Lives from a list of events -/

theorem Need.exists_pause_iff {need : Option Need} :
    (∃ pause, need = some (.lock (.pause pause))) ↔
      (match need with
        | some (.lock (.pause _)) => true
        | _ => false) = true := by
  constructor
  · rintro ⟨pause, rfl⟩
    rfl
  · intro found
    split at found
    · next pause => exact ⟨pause, rfl⟩
    · cases found

namespace Ticket

instance (ticket : Ticket α ε) (event : Event α ε) : Decidable (ticket.Permits event) :=
  match event with
  | .begun _ => inferInstanceAs (Decidable (ticket.operation.need? = some .start))
  | .answered call _ _ =>
      inferInstanceAs (Decidable (ticket.operation.need? = some (.lock (.call call))))
  | .rested _ => decidable_of_iff' _ Need.exists_pause_iff
  | .ended _ => inferInstanceAs (Decidable (ticket.operation.need? = some .body))
  | .cancelled | .givenUp | .awaited => .isTrue trivial

/-- The events, each with the ticket it comes upon, latest first, and the ticket after
them. -/
def follow (path : List (Ticket α ε × Event α ε)) (ticket : Ticket α ε) :
    List (Event α ε) → List (Ticket α ε × Event α ε) × Ticket α ε
  | [] => (path, ticket)
  | event :: events => follow ((ticket, event) :: path) (ticket.after event) events

/-- Whether each of some events is permitted when its turn comes. -/
def PermitsAll (ticket : Ticket α ε) : List (Event α ε) → Prop
  | [] => True
  | event :: events => ticket.Permits event ∧ (ticket.after event).PermitsAll events

instance decidablePermitsAll (ticket : Ticket α ε) :
    (events : List (Event α ε)) → Decidable (ticket.PermitsAll events)
  | [] => .isTrue trivial
  | event :: events =>
      have := decidablePermitsAll (ticket.after event) events
      inferInstanceAs (Decidable (ticket.Permits event ∧ (ticket.after event).PermitsAll events))

end Ticket

theorem Life.of_events {start : Operation α ε} {path : List (Ticket α ε × Event α ε)}
    {ticket : Ticket α ε} {events : List (Event α ε)} (life : Life start path ticket)
    (permitted : ticket.PermitsAll events) :
    Life start (ticket.follow path events).1 (ticket.follow path events).2 := by
  induction events generalizing path ticket with
  | nil => exact life
  | cons event events ih => exact ih (life.event permitted.1) permitted.2

/-! ## What an event does -/

/-- What an operation is after an event. -/
inductive Effect (operation : Operation α ε) : Event α ε → Operation α ε → Prop where
  | begun {moment : Lock.Moment} (phase : operation.phase = .idle)
      (pending : operation.tracker.state = .pending) :
      Effect operation (.begun moment) { operation with
        tracker := operation.tracker.set .acquiring
        phase := .acquiring (.start operation.plan.key operation.plan.guard operation.settings
          operation.maxWait moment) }
  /-- It has been cancelled before it began. -/
  | refused {moment : Lock.Moment} (phase : operation.phase = .idle)
      (taken : operation.tracker.state ≠ .pending) :
      Effect operation (.begun moment)
        { operation with phase := .finished (.error (.cancelled operation.resource)) }
  | answered {acquisition : Lock.Acquisition} {call : Lease.Call} {reply : Lease.Reply}
      {moment : Lock.Moment} (phase : operation.phase = .acquiring acquisition)
      (need : acquisition.need? = some (.call call)) :
      Effect operation (.answered call reply moment)
        (operation.follow (acquisition.answered reply moment))
  | rested {acquisition : Lock.Acquisition} {pause : Duration} {moment : Lock.Moment}
      (phase : operation.phase = .acquiring acquisition)
      (need : acquisition.need? = some (.pause pause)) :
      Effect operation (.rested moment)
        { operation with phase := .acquiring (acquisition.rested moment) }
  | ended {token : String} {ending : Ending α ε} (phase : operation.phase = .running token) :
      Effect operation (.ended ending) { operation with phase := .releasing token ending }
  | released {token : String} {ending : Ending α ε} {reply : Lease.Reply} {moment : Lock.Moment}
      (phase : operation.phase = .releasing token ending) :
      Effect operation (.answered (.revoke operation.plan.key token) reply moment)
        { operation with
          tracker := (operation.tracker.set .released).set .done
          phase := .finished (resultOf operation.resource ending) }
  | cancelled (pending : operation.tracker.state = .pending) :
      Effect operation .cancelled { operation with tracker := operation.tracker.set .cancelled }
  /-- It is too late to cancel it. -/
  | late (taken : operation.tracker.state ≠ .pending) : Effect operation .cancelled operation
  | givenUp (unended : ∀ result, operation.phase ≠ .finished result) :
      Effect operation .givenUp { operation with phase := .abandoned }
  /-- It has ended before it could be given up. -/
  | kept {result : Except (Failure ε) α} (phase : operation.phase = .finished result) :
      Effect operation .givenUp operation
  | awaited : Effect operation .awaited operation
  /-- Whoever waits for an operation that was given up says so. -/
  | cutOff (phase : operation.phase = .abandoned)
      (unended : operation.tracker.state.isTerminal = false) :
      Effect operation .awaited { operation with tracker := operation.tracker.set .cancelled }

section

variable {operation : Operation α ε}

theorem effect_begin (need : operation.need? = some .start) (moment : Lock.Moment) :
    operation.Effect (.begun moment) (operation.begin moment) := by
  unfold need? at need
  cases phase : operation.phase <;> simp only [phase] at need
  case idle =>
      by_cases pending : operation.tracker.state = .pending
      · have begun : operation.Effect (.begun moment) _ := .begun phase pending
        simpa [begin, phase, Tracker.move?, pending] using begun
      · have refused : operation.Effect (.begun moment) _ := .refused phase pending
        simpa [begin, phase, Tracker.move?, pending] using refused
  all_goals simp at need

theorem effect_answered {call : Lease.Call} (need : operation.need? = some (.lock (.call call)))
    (reply : Lease.Reply) (moment : Lock.Moment) :
    operation.Effect (.answered call reply moment) (operation.answered reply moment) := by
  unfold need? at need
  unfold answered
  cases phase : operation.phase <;> simp only [phase] at need
  case acquiring acquisition => exact .answered phase (by simpa using need)
  case releasing token ending =>
      cases need
      exact .released phase
  all_goals cases need

theorem effect_rested {pause : Duration} (need : operation.need? = some (.lock (.pause pause)))
    (moment : Lock.Moment) : operation.Effect (.rested moment) (operation.rested moment) := by
  unfold need? at need
  unfold rested
  cases phase : operation.phase <;> simp only [phase] at need
  case acquiring acquisition =>
      have need : acquisition.need? = some (.pause pause) := by
        simpa using need
      have rested : operation.Effect (.rested moment) _ := .rested phase need
      simpa [follow, Lock.Acquisition.result?_rested need] using rested
  all_goals cases need

theorem effect_bodyEnded (need : operation.need? = some .body) (ending : Ending α ε) :
    operation.Effect (.ended ending) (operation.bodyEnded ending) := by
  unfold need? at need
  unfold bodyEnded
  cases phase : operation.phase <;> simp only [phase] at need
  case running token => exact .ended phase
  case acquiring acquisition => simp at need
  all_goals cases need

theorem effect_cancel : operation.Effect .cancelled operation.cancel.2 := by
  unfold cancel Tracker.move?
  by_cases pending : operation.tracker.state = .pending
  · simpa [pending] using Effect.cancelled pending
  · simpa [pending] using Effect.late pending

theorem effect_abandon : operation.Effect .givenUp operation.abandon.2 := by
  unfold abandon
  cases phase : operation.phase
  case finished result => exact .kept phase
  all_goals exact .givenUp (by simp [phase])

@[simp] theorem resource_follow (acquisition : Lock.Acquisition) :
    (operation.follow acquisition).resource = operation.resource := by
  unfold follow
  split <;> rfl

theorem finished_of_result {result : Except (Failure ε) α}
    (ended : operation.result? = some result) : operation.phase = .finished result := by
  unfold result? at ended
  cases phase : operation.phase <;> simp only [phase] at ended <;> cases ended
  rfl

theorem running_of_need (need : operation.need? = some .body) :
    ∃ token, operation.phase = .running token := by
  unfold need? at need
  cases phase : operation.phase <;> simp only [phase] at need
  case acquiring acquisition => simp at need
  case running token => exact ⟨token, rfl⟩
  all_goals cases need

/-- An operation follows an acquisition that goes on, that has the key, or that has
failed. -/
theorem follow_cases (acquisition : Lock.Acquisition) :
    operation.follow acquisition = { operation with phase := .acquiring acquisition } ∨
      (∃ token, acquisition.phase = .acquired token ∧
        operation.follow acquisition = { operation with
          tracker := (operation.tracker.set .locked).set .running
          phase := .running token }) ∨
      ∃ failure, acquisition.phase = .failed failure ∧
        operation.follow acquisition = { operation with
          tracker := operation.tracker.set (failedState failure)
          phase := .finished (.error (.ofLock operation.resource failure)) } := by
  unfold follow Lock.Acquisition.result?
  cases phase : acquisition.phase <;> simp

end

namespace Ticket

variable {ticket : Ticket α ε}

/-- Whoever waits is told how the operation ended, or that it was cut off; the state then
tells so too. -/
theorem awaited_cases (ticket : Ticket α ε) :
    (∃ result, ticket.operation.phase = .finished result ∧
        ticket.after .awaited = { ticket with told := some result }) ∨
      (ticket.operation.phase = .abandoned ∧
        (ticket.after .awaited).told = some (.error (.cancelled ticket.operation.resource)) ∧
        (ticket.state.isTerminal = true ∧
            (ticket.after .awaited).operation = ticket.operation ∨
          ticket.state.isTerminal = false ∧
            (ticket.after .awaited).operation =
              { ticket.operation with tracker := ticket.operation.tracker.set .cancelled })) ∨
      ticket.after .awaited = ticket := by
  unfold after cutOff state
  cases phase : ticket.operation.phase <;> simp
  cases ended : ticket.operation.tracker.state.isTerminal <;> simp [phase]

/-- Every event that is permitted has one of these effects. -/
theorem effect_after {event : Event α ε} (permitted : ticket.Permits event) :
    ticket.operation.Effect event (ticket.after event).operation := by
  cases event with
  | begun moment => exact effect_begin permitted moment
  | answered call reply moment => exact effect_answered permitted reply moment
  | rested moment =>
      obtain ⟨pause, need⟩ := permitted
      exact effect_rested need moment
  | ended ending => exact effect_bodyEnded permitted ending
  | cancelled => exact effect_cancel
  | givenUp => exact effect_abandon
  | awaited =>
      rcases ticket.awaited_cases with ⟨result, -, equal⟩ | ⟨phase, -, outcome⟩ | equal
      · rw [equal]
        exact .awaited
      · rcases outcome with ⟨-, same⟩ | ⟨unended, cut⟩
        · rw [same]
          exact .awaited
        · rw [cut]
          exact .cutOff phase unended
      · rw [equal]
        exact .awaited

/-- An operation keeps its plan. -/
theorem plan_after {event : Event α ε} (permitted : ticket.Permits event) :
    (ticket.after event).operation.plan = ticket.operation.plan := by
  have effect := ticket.effect_after permitted
  generalize (ticket.after event).operation = operation at effect
  cases effect with
  | answered phase need => exact plan_follow _
  | _ => rfl

theorem resource_after {event : Event α ε} (permitted : ticket.Permits event) :
    (ticket.after event).operation.resource = ticket.operation.resource := by
  have effect := ticket.effect_after permitted
  generalize (ticket.after event).operation = operation at effect
  cases effect with
  | answered phase need => exact resource_follow _
  | _ => rfl

/-- Only a wait tells anything. -/
theorem told_after {event : Event α ε} (asks : event ≠ .awaited) :
    (ticket.after event).told = ticket.told := by
  cases event with
  | awaited => exact absurd rfl asks
  | _ => rfl

/-- A body starts only as the last step of getting the lock. -/
theorem acquiring_of_starts {event : Event α ε} (permitted : ticket.Permits event)
    (started : starts (ticket, event) = true) :
    ∃ acquisition call reply moment token, ticket.operation.phase = .acquiring acquisition ∧
      event = .answered call reply moment ∧
      (ticket.after event).operation.phase = .running token := by
  obtain ⟨idle, runs⟩ : ticket.operation.need? ≠ some .body ∧
      (ticket.after event).operation.need? = some .body := by
    simpa [starts] using started
  obtain ⟨token, running⟩ := running_of_need runs
  have effect := ticket.effect_after permitted
  generalize (ticket.after event).operation = operation at effect runs running
  cases effect with
  | @answered acquisition call reply moment phase need =>
      exact ⟨acquisition, call, reply, moment, token, phase, rfl, running⟩
  | cancelled pending => exact absurd runs idle
  | cutOff phase unended => exact absurd runs idle
  | late taken => exact absurd runs idle
  | kept phase => exact absurd runs idle
  | awaited => exact absurd runs idle
  | _ => cases running

end Ticket

/-! ## Whole lives -/

namespace Life

variable {start : Operation α ε} {path : List (Ticket α ε × Event α ε)} {ticket : Ticket α ε}

theorem plan (life : Life start path ticket) : ticket.operation.plan = start.plan := by
  induction life with
  | start => rfl
  | event life permitted ih => exact (Ticket.plan_after permitted).trans ih

theorem resource (life : Life start path ticket) :
    ticket.operation.resource = start.resource := by
  induction life with
  | start => rfl
  | event life permitted ih => exact (Ticket.resource_after permitted).trans ih

end Life

end Operation

end Coedit
