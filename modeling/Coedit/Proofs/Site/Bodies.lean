import Coedit.Proofs.Site.Exclusion

/-!
# When bodies run

An operation waits for its lock, runs its body under it, and is never back where it was.
What one operation does tells when its own body runs, and leaves the others' alone.
-/

namespace Coedit

namespace Site.Entry

variable {α ε : Type} {entry : Entry α ε}

/-- Whether the operation has yet to get its lock. -/
def IsWaiting (entry : Entry α ε) : Prop :=
  entry.operation.phase = .idle ∨ ∃ acquisition, entry.operation.phase = .acquiring acquisition

theorem need?_of_running (running : entry.IsRunning) : entry.operation.need? = some .body := by
  obtain ⟨token, phase⟩ := running
  simp [Operation.need?, phase]

theorem running_of_need? (need : entry.operation.need? = some .body) : entry.IsRunning := by
  unfold Operation.need? at need
  cases phase : entry.operation.phase <;> simp only [phase] at need
  case running token => exact ⟨token, phase⟩
  case acquiring acquisition =>
      cases need' : acquisition.need? with
      | none => simp [need'] at need
      | some inner => simp [need'] at need
  all_goals cases need

/-- Going on leaves a running body alone. -/
theorem resumed_of_running (running : entry.IsRunning) (moment : Lock.Moment) :
    entry.resumed moment = entry := by
  unfold resumed
  simp only [need?_of_running running]

theorem running_or_waiting_of_resumed {moment : Lock.Moment}
    (running : (entry.resumed moment).IsRunning) : entry.IsRunning ∨ entry.IsWaiting := by
  obtain ⟨token, phase⟩ := running
  cases before : entry.operation.phase with
  | idle => exact .inr (.inl before)
  | acquiring acquisition => exact .inr (.inr ⟨acquisition, before⟩)
  | running held => exact .inl ⟨held, before⟩
  | releasing held ending =>
      unfold resumed Operation.need? at phase
      simp only [before] at phase
      cases answer : entry.reply with
      | none => simp [answer, before] at phase
      | some reply => simp [answer, Operation.answered, before] at phase
  | finished result =>
      unfold resumed Operation.need? at phase
      simp [before] at phase
  | abandoned =>
      unfold resumed Operation.need? at phase
      simp [before] at phase

theorem waiting_of_resumed {moment : Lock.Moment}
    (waiting : (entry.resumed moment).IsWaiting) : entry.IsWaiting := by
  cases before : entry.operation.phase with
  | idle => exact .inl before
  | acquiring acquisition => exact .inr ⟨acquisition, before⟩
  | running held =>
      rw [resumed_of_running ⟨held, before⟩] at waiting
      exact waiting
  | releasing held ending =>
      unfold resumed Operation.need? IsWaiting at waiting
      simp only [before] at waiting
      cases answer : entry.reply with
      | none => simp [answer, before] at waiting
      | some reply => simp [answer, Operation.answered, before] at waiting
  | finished result =>
      unfold resumed Operation.need? IsWaiting at waiting
      simp [before] at waiting
  | abandoned =>
      unfold resumed Operation.need? IsWaiting at waiting
      simp [before] at waiting

theorem waiting_of_bodyEnded {ending : Operation.Ending α ε}
    (waiting : (entry.bodyEnded ending).IsWaiting) : entry.IsWaiting := by
  unfold bodyEnded Operation.bodyEnded IsWaiting at waiting
  split at waiting
  · simp at waiting
  · exact waiting

theorem waiting_of_cancelled (waiting : entry.cancelled.IsWaiting) : entry.IsWaiting := by
  unfold cancelled IsWaiting at waiting
  rw [Operation.phase_cancel] at waiting
  exact waiting

theorem not_running_of_waiting (waiting : entry.IsWaiting) : ¬ entry.IsRunning := by
  rintro ⟨token, phase⟩
  rcases waiting with idle | ⟨acquisition, acquiring⟩
  · simp [idle] at phase
  · simp [acquiring] at phase

end Site.Entry

namespace Site

variable {S α ε : Type} [Lease.Store S] [Lease.Lawful S] {site after : Site S α ε}
  {move : Move α ε} {operation : OperationId} {entry : Entry α ε}

/-- No operation is lost, none gets another plan, and none waits again. -/
theorem Exclusive.remains (exclusive : site.Exclusive) (effect : site.Effect move after)
    {id : OperationId} {entry : Entry α ε} (found : site.operations.get? id = some entry) :
    ∃ later, after.operations.get? id = some later ∧
      later.operation.plan = entry.operation.plan ∧ (later.IsWaiting → entry.IsWaiting) := by
  obtain ⟨later, laterFound, rfl | follows⟩ := exclusive.onward effect found
  · exact ⟨later, laterFound, rfl, fun waits => waits⟩
  · refine ⟨later, laterFound, ?_⟩
    generalize after.lockers = lockers at follows
    cases follows with
    | performed need unanswered => exact ⟨rfl, fun waits => waits⟩
    | resumed => exact ⟨Entry.plan_resumed _ _, Entry.waiting_of_resumed⟩
    | bodyEnded => exact ⟨Entry.plan_bodyEnded _ _, Entry.waiting_of_bodyEnded⟩
    | cancelled => exact ⟨Entry.plan_cancelled _, Entry.waiting_of_cancelled⟩

omit [Lease.Lawful S] in
/-- An operation that enters has yet to begin. -/
theorem get?_enter {service : ServiceId} (accepted : site.isAccepting service = true)
    (plan : Plan) (maxWait : Option Duration) :
    ∃ settings wait, (site.after (.enter service plan maxWait)).operations.get?
      site.nextOperation = some ⟨service, .create plan settings wait, none⟩ := by
  simp only [Site.after, enter, accepted, if_true]
  exact ⟨_, _, Table.get?_insert_self ..⟩

/-! ## Whose body runs -/

omit [Lease.Store S] [Lease.Lawful S]

theorem need?_of_get? {other : OperationId}
    (same : after.operations.get? operation = site.operations.get? other) :
    after.need? operation = site.need? other := by
  simp only [need?, operation?, same]

theorem need?_of_found (found : site.operations.get? operation = some entry) :
    site.need? operation = entry.operation.need? := by
  simp only [need?, operation?, found, Option.map_some, Option.bind_some]

/-- An operation that is resumed leaves all others alone, and begins its body only from
waiting for its lock. -/
theorem need?_resume [Lease.Store S] (moment : Lock.Moment)
    (found : site.operations.get? operation = some entry) :
    (∀ other, operation ≠ other →
      (site.after (.resume operation moment)).need? other = site.need? other) ∧
      (((site.after (.resume operation moment)).need? operation = some .body ↔
          site.need? operation = some .body) ∨
        entry.IsWaiting ∧ (site.after (.resume operation moment)).need? operation = some .body) := by
  constructor
  · intro other apart
    apply need?_of_get?
    simp only [Site.after, get?_resume, if_neg apart]
  · have later : (site.after (.resume operation moment)).operations.get? operation =
        some (entry.resumed moment) := by
      simp only [Site.after, get?_resume, if_true, found, Option.map_some]
    rw [need?_of_found later, need?_of_found found]
    by_cases runs : (entry.resumed moment).IsRunning
    · rcases Entry.running_or_waiting_of_resumed runs with running | waiting
      · left
        rw [Entry.resumed_of_running running]
      · exact .inr ⟨waiting, Entry.need?_of_running runs⟩
    · left
      constructor
      · intro need
        exact absurd (Entry.running_of_need? need) runs
      · intro need
        rw [Entry.resumed_of_running (Entry.running_of_need? need)]
        exact need

/-- A call to the store begins no body and ends none. -/
theorem need?_perform [Lease.Store S] (failure : Option StoreError) (now : Instant)
    (found : site.operations.get? operation = some entry) (other : OperationId) :
    (site.after (.perform operation failure now)).need? other = site.need? other := by
  by_cases idle : ∀ entry call, site.operations.get? operation = some entry →
      entry.operation.need? = some (.lock (.call call)) → entry.reply ≠ none
  · rw [Site.after, perform_of_no_need idle]
  · have : ∃ call, entry.operation.need? = some (.lock (.call call)) ∧ entry.reply = none := by
      simpa [found] using idle
    obtain ⟨call, need, unanswered⟩ := this
    obtain ⟨-, -, operations⟩ := perform_of_need found need unanswered failure now
    by_cases same : operation = other
    · subst same
      have later := operations operation
      rw [if_pos rfl] at later
      rw [Site.after, need?_of_found later, need?_of_found found]
    · apply need?_of_get?
      rw [Site.after, operations, if_neg same]

/-- An operation that gets on with its lock leaves all others alone, and begins its body
only from waiting for it. -/
theorem need?_locked [Lease.Store S] {move : Move α ε}
    (kind : (∃ moment, move = .resume operation moment) ∨
      ∃ failure now, move = .perform operation failure now)
    (found : site.operations.get? operation = some entry) :
    (∀ other, operation ≠ other → (site.after move).need? other = site.need? other) ∧
      (((site.after move).need? operation = some .body ↔ site.need? operation = some .body) ∨
        entry.IsWaiting ∧ (site.after move).need? operation = some .body) := by
  rcases kind with ⟨moment, rfl⟩ | ⟨failure, now, rfl⟩
  · exact need?_resume moment found
  · have same := need?_perform failure now found
    exact ⟨fun other _ => same other, .inl (by rw [same])⟩

/-- An operation whose body has ended has no body to run any more. -/
theorem need?_bodyEnded [Lease.Store S] (site : Site S α ε) (operation : OperationId)
    (ending : Operation.Ending α ε) :
    (∀ other, operation ≠ other →
      (site.after (.bodyEnded operation ending)).need? other = site.need? other) ∧
    (site.after (.bodyEnded operation ending)).need? operation ≠ some .body := by
  constructor
  · intro other apart
    apply need?_of_get?
    simp only [Site.after, get?_bodyEnded, if_neg apart]
  · intro need
    cases found : site.operations.get? operation with
    | none =>
        simp [need?, operation?, Site.after, get?_bodyEnded, found] at need
    | some entry =>
        have later : (site.after (.bodyEnded operation ending)).operations.get? operation =
            some (entry.bodyEnded ending) := by
          simp only [Site.after, get?_bodyEnded, if_true, found, Option.map_some]
        rw [need?_of_found later] at need
        obtain ⟨token, phase⟩ := Entry.running_of_need? need
        simp only [Entry.bodyEnded, Operation.bodyEnded] at phase
        cases before : entry.operation.phase <;> simp [before] at phase

/-- An operation that is over has no body to run. -/
theorem need?_of_result? {result : Except (Operation.Failure ε) α}
    (finished : site.result? operation = some result) : site.need? operation ≠ some .body := by
  intro runs
  cases entry : site.operation? operation with
  | none => simp [result?, entry] at finished
  | some entered =>
      simp only [result?, need?, entry, Option.bind_some, Operation.result?] at finished runs
      cases phase : entered.phase <;> simp [phase] at finished
      simp [Operation.need?, phase] at runs

/-- An operation that enters leaves all others alone. -/
theorem need?_enter [Lease.Store S] {service : ServiceId} {plan : Plan}
    {maxWait : Option Duration} {other : OperationId} (apart : site.nextOperation ≠ other) :
    (site.after (.enter service plan maxWait)).need? other = site.need? other := by
  cases accepting : site.isAccepting service with
  | true =>
      apply need?_of_get?
      simp only [Site.after, enter, accepting, if_true]
      exact (Table.get?_insert ..).trans (if_neg apart)
  | false => simp only [Site.after, enter, accepting, Bool.false_eq_true, if_false]

end Site

end Coedit
