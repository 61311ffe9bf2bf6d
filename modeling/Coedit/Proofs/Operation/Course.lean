import Coedit.Proofs.Operation.Life

/-!
# The course of an operation

The states that an operation goes through.  Its own steps, those who cancel it, the pool
that gives it up and those who wait for it all write its one tracker; whichever comes
first, the states are one of a few courses, an end is never left, and whoever waits is
told what the tracker tells.
-/

namespace Coedit

namespace Operation

variable {α ε : Type}

namespace Tracker

@[simp] theorem history_set (tracker : Tracker) (next : State) :
    (tracker.set next).history = tracker.history ++ [next] := by
  simp [history, set]

@[simp] theorem state_set (tracker : Tracker) (next : State) : (tracker.set next).state = next :=
  rfl

@[simp] theorem resource_set (tracker : Tracker) (next : State) :
    (tracker.set next).resource = tracker.resource := rfl

theorem getLast?_history (tracker : Tracker) : tracker.history.getLast? = some tracker.state := by
  simp [history]

theorem state_of_history {tracker : Tracker} {states : List State} {last : State}
    (history : tracker.history = states) (final : states.getLast? = some last) :
    tracker.state = last := by
  rw [← history, getLast?_history] at final
  exact Option.some.inj final

end Tracker

/-- The courses of an operation that nobody gives up. -/
def courses : List (List State) :=
  [[.pending, .acquiring, .timedOut], [.pending, .acquiring, .providerError],
    [.pending, .acquiring, .locked, .running, .released, .done], [.pending, .cancelled]]

/-- The states so far of an operation that has neither ended nor is between two steps. -/
def stages : List (List State) :=
  [[.pending], [.pending, .acquiring], [.pending, .acquiring, .locked, .running]]

/-- The course that leads to a result; nothing is turned away once it is submitted. -/
def courseOf? : Except (Failure ε) α → Option (List State)
  | .ok _ | .error (.failed ..) => some [.pending, .acquiring, .locked, .running, .released, .done]
  | .error (.lockTimeout ..) => some [.pending, .acquiring, .timedOut]
  | .error (.unavailable ..) => some [.pending, .acquiring, .providerError]
  | .error (.cancelled _) => some [.pending, .cancelled]
  | .error (.rejected _) => none

/-- The states that go with a phase. -/
def Phase.Records (history : List State) : Phase α ε → Prop
  | .idle => history = [.pending] ∨ history = [.pending, .cancelled]
  | .acquiring _ => history = [.pending, .acquiring]
  | .running _ | .releasing .. => history = [.pending, .acquiring, .locked, .running]
  | .finished result => courseOf? result = some history
  | .abandoned => ∃ stage ∈ stages, history = stage ∨ history = stage ++ [.cancelled]

/-- What an operation and whoever waits for it know agrees. -/
structure Ticket.Sound (ticket : Ticket α ε) : Prop where
  records : ticket.operation.phase.Records ticket.history
  told {result : Except (Failure ε) α} (told : ticket.told = some result) :
    ticket.operation.phase = .finished result ∨
      ticket.operation.phase = .abandoned ∧ ticket.state = .cancelled ∧
        result = .error (.cancelled ticket.operation.resource)

theorem courseOf?_mem {result : Except (Failure ε) α} {course : List State}
    (found : courseOf? result = some course) : course ∈ courses := by
  unfold courseOf? at found
  split at found <;> cases found <;> decide

/-! ## One event -/

/-- A tracker stays, or goes on along a course that it has not come to the end of. -/
def Tracker.GoesOn (before after : Tracker) : Prop :=
  after = before ∨ before.state.isTerminal = false ∧ before.history <+: after.history ∧
    ∃ course ∈ courses, after.history <+: course

theorem Tracker.goesOn {before after : Tracker} {states added : List State}
    (was : before.history = states) (is : after.history = states ++ added)
    (unended : states.getLast?.any State.isTerminal = false)
    (course : ∃ course ∈ courses, states ++ added <+: course) : before.GoesOn after := by
  right
  refine ⟨?_, by simp [was, is], by simpa only [is] using course⟩
  rw [← was, before.getLast?_history] at unended
  simpa using unended

section

variable {operation : Operation α ε}

/-- Following an acquisition, an operation goes on to its body or to an end, or stays. -/
theorem records_follow (history : operation.tracker.history = [.pending, .acquiring])
    (acquisition : Lock.Acquisition) :
    (operation.follow acquisition).phase.Records (operation.follow acquisition).tracker.history ∧
      operation.tracker.GoesOn (operation.follow acquisition).tracker := by
  rcases operation.follow_cases acquisition with equal | ⟨token, -, equal⟩ | ⟨failure, -, equal⟩
  · rw [equal]
    exact ⟨history, .inl rfl⟩
  · rw [equal]
    have states : ((operation.tracker.set .locked).set .running).history =
        [.pending, .acquiring, .locked, .running] := by simp [history]
    exact ⟨states, Tracker.goesOn history states (by decide) (by decide)⟩
  · rw [equal]
    cases failure with
    | timeout key waited =>
        have states : (operation.tracker.set .timedOut).history =
            [.pending, .acquiring, .timedOut] := by simp [history]
        exact ⟨congrArg some states.symm, Tracker.goesOn history states (by decide) (by decide)⟩
    | unavailable key source =>
        have states : (operation.tracker.set .providerError).history =
            [.pending, .acquiring, .providerError] := by simp [history]
        exact ⟨congrArg some states.symm, Tracker.goesOn history states (by decide) (by decide)⟩

/-- Only at the start, or if it was given up there, can an operation be cancelled. -/
theorem history_of_pending (records : operation.phase.Records operation.tracker.history)
    (pending : operation.tracker.state = .pending) :
    operation.tracker.history = [.pending] ∧
      (operation.phase = .idle ∨ operation.phase = .abandoned) := by
  have last := operation.tracker.getLast?_history
  rw [pending] at last
  generalize operation.tracker.history = history at records last
  cases phase : operation.phase with
  | idle =>
      rw [phase] at records
      rcases records with rfl | rfl
      · exact ⟨rfl, .inl rfl⟩
      · cases last
  | abandoned =>
      rw [phase] at records
      obtain ⟨stage, member, rfl | rfl⟩ := records
      · have alone : ∀ stage ∈ stages, stage.getLast? = some .pending → stage = [.pending] := by
          decide
        exact ⟨alone history member last, .inr rfl⟩
      · rw [List.getLast?_concat] at last
        cases last
  | finished result =>
      rw [phase] at records
      have unended : ∀ course ∈ courses, course.getLast? ≠ some .pending := by decide
      exact absurd last (unended history (courseOf?_mem records))
  | _ =>
      rw [phase] at records
      obtain rfl : history = _ := records
      cases last

/-- What is given up keeps its states. -/
theorem records_abandon (records : operation.phase.Records operation.tracker.history)
    (unended : ∀ result, operation.phase ≠ .finished result) :
    (.abandoned : Phase α ε).Records operation.tracker.history := by
  cases phase : operation.phase with
  | idle =>
      rw [phase] at records
      exact ⟨[.pending], by decide, records⟩
  | finished result => exact absurd phase (unended result)
  | abandoned => exact phase ▸ records
  | _ =>
      rw [phase] at records
      exact ⟨_, by decide, .inl records⟩

end

namespace Ticket

variable {ticket : Ticket α ε}

theorem Sound.of_untold (records : ticket.operation.phase.Records ticket.history)
    (untold : ticket.told = none) : ticket.Sound :=
  ⟨records, fun known => by simp [untold] at known⟩

/-- Nobody has been told anything before the task has ended. -/
theorem Sound.told_eq_none (sound : ticket.Sound)
    (unended : ∀ result, ticket.operation.phase ≠ .finished result)
    (carried : ticket.operation.phase ≠ .abandoned) : ticket.told = none := by
  cases told : ticket.told with
  | none => rfl
  | some result =>
      rcases sound.told told with ended | ⟨lost, -⟩
      · exact absurd ended (unended result)
      · exact absurd lost carried

theorem sound_create (plan : Plan) (settings : Lock.Settings) (maxWait : Duration) :
    (⟨.create plan settings maxWait, none⟩ : Ticket α ε).Sound :=
  .of_untold (.inl rfl) rfl

/-- An operation that was given up ends in one state only. -/
theorem Sound.state_of_abandoned (sound : ticket.Sound)
    (phase : ticket.operation.phase = .abandoned) (ended : ticket.state.isTerminal = true) :
    ticket.state = .cancelled := by
  have records := sound.records
  rw [phase] at records
  obtain ⟨stage, member, states | states⟩ := records
  · have unended : ∀ stage ∈ stages, stage.getLast?.any State.isTerminal = false := by decide
    have last := unended stage member
    rw [← states, history, Tracker.getLast?_history] at last
    rw [state] at ended
    simp [ended] at last
  · exact Tracker.state_of_history states List.getLast?_concat

/-- Every event that is not a wait keeps what is known in agreement, and brings the tracker
on along a course if it touches it. -/
theorem Sound.step (sound : ticket.Sound) {event : Event α ε} (permitted : ticket.Permits event)
    (asks : event ≠ .awaited) :
    (ticket.after event).Sound ∧
      ticket.operation.tracker.GoesOn (ticket.after event).operation.tracker := by
  have records : ticket.operation.phase.Records ticket.operation.tracker.history := sound.records
  have effect := ticket.effect_after permitted
  have told := ticket.told_after asks
  generalize ticket.after event = after at effect told
  obtain ⟨operation, known⟩ := after
  dsimp only at effect told
  subst known
  cases effect with
  | begun phase pending =>
      have untold := sound.told_eq_none (by simp [phase]) (by simp [phase])
      have history := (history_of_pending records pending).1
      have states : (ticket.operation.tracker.set .acquiring).history = [.pending, .acquiring] := by
        simp [history]
      exact ⟨.of_untold states untold, Tracker.goesOn history states (by decide) (by decide)⟩
  | refused phase taken =>
      have untold := sound.told_eq_none (by simp [phase]) (by simp [phase])
      rw [phase] at records
      rcases records with history | history
      · exact absurd (Tracker.state_of_history history rfl) taken
      · exact ⟨.of_untold (congrArg some history.symm) untold, .inl rfl⟩
  | @answered acquisition call reply moment phase need =>
      have untold := sound.told_eq_none (by simp [phase]) (by simp [phase])
      rw [phase] at records
      obtain ⟨recorded, goesOn⟩ := records_follow records (acquisition.answered reply moment)
      exact ⟨.of_untold recorded untold, goesOn⟩
  | @rested acquisition pause moment phase need =>
      have untold := sound.told_eq_none (by simp [phase]) (by simp [phase])
      rw [phase] at records
      exact ⟨.of_untold records untold, .inl rfl⟩
  | ended phase =>
      have untold := sound.told_eq_none (by simp [phase]) (by simp [phase])
      rw [phase] at records
      exact ⟨.of_untold records untold, .inl rfl⟩
  | @released token ending reply moment phase =>
      have untold := sound.told_eq_none (by simp [phase]) (by simp [phase])
      rw [phase] at records
      have history : ticket.operation.tracker.history = _ := records
      have states : ((ticket.operation.tracker.set .released).set .done).history =
          [.pending, .acquiring, .locked, .running, .released, .done] := by simp [history]
      refine ⟨.of_untold ?_ untold, Tracker.goesOn history states (by decide) (by decide)⟩
      cases ending <;> exact congrArg some states.symm
  | cancelled pending =>
      obtain ⟨history, early⟩ := history_of_pending records pending
      have states : (ticket.operation.tracker.set .cancelled).history = [.pending, .cancelled] := by
        simp [history]
      refine ⟨⟨?_, fun known => ?_⟩, Tracker.goesOn history states (by decide) (by decide)⟩
      · rcases early with phase | phase <;> simp only [phase]
        · exact .inr states
        · exact ⟨[.pending], by decide, .inr states⟩
      · rcases sound.told known with ended | ⟨-, state, -⟩
        · rcases early with phase | phase <;> cases ended.symm.trans phase
        · cases state.symm.trans pending
  | late taken => exact ⟨sound, .inl rfl⟩
  | givenUp unended =>
      have lost := records_abandon records unended
      refine ⟨⟨lost, fun {result} known => ?_⟩, .inl rfl⟩
      rcases sound.told known with ended | ⟨-, state, given⟩
      · exact absurd ended (unended result)
      · exact .inr ⟨rfl, state, given⟩
  | kept phase => exact ⟨sound, .inl rfl⟩
  | awaited => exact absurd rfl asks
  | cutOff phase unended => exact absurd rfl asks

/-- A wait brings a tracker on only if the operation was given up before it had ended. -/
theorem Sound.awaited (sound : ticket.Sound) :
    (ticket.after .awaited).Sound ∧
      ((ticket.after .awaited).operation.tracker = ticket.operation.tracker ∨
        ticket.operation.phase = .abandoned ∧ ticket.state.isTerminal = false ∧
          (ticket.after .awaited).operation.tracker = ticket.operation.tracker.set .cancelled) := by
  rcases ticket.awaited_cases with
    ⟨result, phase, equal⟩ | ⟨phase, told, outcome⟩ | equal
  · rw [equal]
    refine ⟨⟨sound.records, ?_⟩, .inl rfl⟩
    rintro other ⟨⟩
    exact .inl phase
  · rcases outcome with ⟨ended, same⟩ | ⟨unended, cut⟩
    · have records := sound.records
      refine ⟨⟨by rw [history, same]; exact records, fun {result} known => ?_⟩,
        .inl (congrArg Operation.tracker same)⟩
      cases told.symm.trans known
      rw [state, same]
      exact .inr ⟨phase, sound.state_of_abandoned phase ended, rfl⟩
    · have records := sound.records
      rw [phase] at records
      refine ⟨⟨?_, fun {result} known => ?_⟩,
        .inr ⟨phase, unended, congrArg Operation.tracker cut⟩⟩
      · obtain ⟨stage, member, states | states⟩ := records
        · rw [history, cut]
          simp only [phase]
          refine ⟨stage, member, .inr ?_⟩
          rw [Tracker.history_set]
          exact congrArg (· ++ [State.cancelled]) states
        · have state : ticket.state = .cancelled :=
            Tracker.state_of_history states List.getLast?_concat
          simp [state, State.isTerminal] at unended
      · cases told.symm.trans known
        rw [state, cut]
        exact .inr ⟨phase, rfl, rfl⟩
  · rw [equal]
    exact ⟨sound, .inl rfl⟩

/-- What was noted stays noted. -/
theorem Sound.history_isPrefix (sound : ticket.Sound) {event : Event α ε}
    (permitted : ticket.Permits event) : ticket.history <+: (ticket.after event).history := by
  unfold history
  by_cases asks : event = .awaited
  · subst asks
    rcases sound.awaited.2 with same | ⟨-, -, cut⟩
    · exact same ▸ List.prefix_rfl
    · rw [cut, Tracker.history_set]
      exact List.prefix_append ..
  · rcases (sound.step permitted asks).2 with same | ⟨-, longer, -⟩
    · exact same ▸ List.prefix_rfl
    · exact longer

/-- Whoever makes calls goes for its lock, or did so and gives it back. -/
theorem Sound.acquiring_of_call (sound : ticket.Sound) {call : Lease.Call}
    (need : ticket.operation.need? = some (.lock (.call call))) : .acquiring ∈ ticket.history := by
  have records : ticket.operation.phase.Records ticket.history := sound.records
  unfold need? at need
  cases phase : ticket.operation.phase <;> simp only [phase] at need
  case acquiring acquisition =>
      rw [phase] at records
      rw [show ticket.history = _ from records]
      decide
  case releasing token ending =>
      rw [phase] at records
      rw [show ticket.history = _ from records]
      decide
  all_goals cases need

end Ticket

/-! ## Whole lives -/

namespace Life

variable {plan : Plan} {settings : Lock.Settings} {maxWait : Duration}
  {path : List (Ticket α ε × Event α ε)} {ticket : Ticket α ε}

theorem sound (life : Life (.create plan settings maxWait) path ticket) : ticket.Sound := by
  induction life with
  | start => exact Ticket.sound_create plan settings maxWait
  | @event path ticket event life permitted ih =>
      by_cases asks : event = .awaited
      · exact asks ▸ ih.awaited.1
      · exact (ih.step permitted asks).1

/-- An operation that was cancelled in time has not begun, and never does. -/
theorem untouched (life : Life (.create plan settings maxWait) path ticket)
    (early : .acquiring ∉ ticket.history) :
    calls path = [] ∧ ∀ step ∈ path, starts step = false := by
  induction life with
  | start => exact ⟨rfl, by simp⟩
  | @event path ticket event life permitted ih =>
      have before : .acquiring ∉ ticket.history := fun noted =>
        early ((life.sound.history_isPrefix permitted).subset noted)
      obtain ⟨silent, idle⟩ := ih before
      have quiet : ∀ call reply moment, event ≠ .answered call reply moment := by
        rintro call reply moment rfl
        exact before (life.sound.acquiring_of_call permitted)
      constructor
      · rw [calls_cons, silent]
        cases event with
        | answered call reply moment => exact absurd rfl (quiet call reply moment)
        | _ => rfl
      · intro step member
        rcases List.mem_cons.mp member with rfl | earlier
        · cases started : starts (ticket, event) with
          | false => rfl
          | true =>
              obtain ⟨_, call, reply, moment, _, _, made, _⟩ :=
                Ticket.acquiring_of_starts permitted started
              exact absurd made (quiet call reply moment)
        · exact idle step earlier

end Life

end Operation

end Coedit
