import Coedit.Proofs.Operation.Life
import Coedit.Proofs.Site.Abandoning
import Coedit.Proofs.Site.Handshake

/-!
# The ledger of an operation

The calls that an operation has made, and what follows from them: which entry it owes the
store, which keys it has seen free since it was granted its own, and whether the store has
failed it.
-/

namespace Coedit

open Lease

namespace Operation

variable {α ε : Type}

/-! ## Owing -/

/-- The entries that were granted and that nobody has tried to give back, latest first. -/
def owed : List (Call × Reply) → List (String × String)
  | [] => []
  | (.claim key token _, .ok true) :: earlier => (key, token) :: owed earlier
  | (.revoke key token, _) :: earlier => (owed earlier).erase (key, token)
  | _ :: earlier => owed earlier

theorem owed_refused {key token : String} {ttl : Duration} {reply : Reply}
    {log : List (Call × Reply)} (refused : reply ≠ .ok true) :
    owed ((.claim key token ttl, reply) :: log) = owed log := by
  rcases reply with error | granted
  · rfl
  · cases granted with
    | true => exact absurd rfl refused
    | false => rfl

theorem owed_checks {checks log : List (Call × Reply)}
    (looks : ∀ entry ∈ checks, ∃ key, entry.1 = .check key) : owed (checks ++ log) = owed log := by
  induction checks with
  | nil => rfl
  | cons entry checks ih =>
      obtain ⟨call, reply⟩ := entry
      obtain ⟨key, rfl⟩ := looks (call, reply) List.mem_cons_self
      exact ih fun entry member => looks entry (List.mem_cons_of_mem _ member)

/-- What was granted is owed until somebody tries to give it back. -/
theorem mem_owed_of_granted {later earlier : List (Call × Reply)} {key token : String}
    {ttl : Duration} (unreturned : ∀ reply, (.revoke key token, reply) ∉ later) :
    (key, token) ∈ owed (later ++ (.claim key token ttl, .ok true) :: earlier) := by
  induction later with
  | nil => exact List.mem_cons_self
  | cons entry later ih =>
      have owing := ih fun reply member => unreturned reply (List.mem_cons_of_mem _ member)
      rw [List.cons_append]
      unfold owed
      split
      · cases ‹_ :: _ = []›
      · next equal =>
          cases equal
          exact List.mem_cons_of_mem _ owing
      · next otherKey otherToken reply rest equal =>
          cases equal
          refine (List.mem_erase_of_ne ?_).mpr owing
          rintro ⟨⟩
          exact unreturned reply List.mem_cons_self
      · next equal =>
          cases equal
          exact owing

/-! ## The ledger -/

/-- What the calls of an operation tell of where it is. -/
structure Ledger (operation : Operation α ε) (log : List (Call × Reply)) : Prop where
  sound : operation.Sound
  /-- Whoever holds no key owes none. -/
  settled (carried : operation.phase ≠ .abandoned)
    (free : operation.phase.holds? none = none) : owed log = []
  /-- Whoever holds its key was granted it and has only looked at other keys since. -/
  held {token : String} (holds : operation.phase.holds? none = some token) :
    ∃ checks ttl earlier,
      log = checks ++ (.claim operation.plan.key token ttl, .ok true) :: earlier ∧
        (∀ entry ∈ checks, ∃ key, entry.1 = .check key) ∧ owed earlier = [] ∧
        ∀ key, operation.plan.guard.Names key → operation.phase.HasPassed key none →
          (.check key, .ok false) ∈ checks
  few : (owed log).length ≤ 1

namespace Ledger

variable {operation after : Operation α ε} {log : List (Call × Reply)}

/-- An operation that is carried owes at most the entry it holds. -/
theorem of_holds (sound : operation.Sound)
    (settled : operation.phase.holds? none = none → owed log = [])
    (held : ∀ token, operation.phase.holds? none = some token → ∃ checks ttl earlier,
      log = checks ++ (.claim operation.plan.key token ttl, .ok true) :: earlier ∧
        (∀ entry ∈ checks, ∃ key, entry.1 = .check key) ∧ owed earlier = [] ∧
        ∀ key, operation.plan.guard.Names key → operation.phase.HasPassed key none →
          (.check key, .ok false) ∈ checks) : operation.Ledger log := by
  refine ⟨sound, fun _ => settled, held _, ?_⟩
  cases holds : operation.phase.holds? none with
  | none => simp [settled holds]
  | some token =>
      obtain ⟨checks, ttl, earlier, rfl, looks, clear, -⟩ := held token holds
      simp [owed_checks looks, owed, clear]

theorem create (plan : Plan) (settings : Lock.Settings) (maxWait : Duration) :
    (Operation.create plan settings maxWait : Operation α ε).Ledger [] :=
  .of_holds (by simp [Sound, Operation.create]) (fun _ => rfl) nofun

/-- As long as no call is made, the ledger stays with an operation that holds what it held
and has passed no further key. -/
theorem onward (ledger : operation.Ledger log) (carried : operation.phase ≠ .abandoned)
    (sound : after.Sound) (plan : after.plan = operation.plan)
    (holds : after.phase.holds? none = operation.phase.holds? none)
    (passed : ∀ key, after.phase.HasPassed key none → operation.phase.HasPassed key none) :
    after.Ledger log := by
  refine .of_holds sound (fun free => ledger.settled carried (holds ▸ free)) fun token held => ?_
  obtain ⟨checks, ttl, earlier, equal, looks, clear, seen⟩ := ledger.held (holds ▸ held)
  rw [plan]
  exact ⟨checks, ttl, earlier, equal, looks, clear, fun key names pass =>
    seen key names (passed key pass)⟩

/-- A call and its answer are entered. -/
theorem called (ledger : operation.Ledger log) {call : Call} {reply : Reply}
    (need : operation.need? = some (.lock (.call call))) (sound : after.Sound)
    (plan : after.plan = operation.plan)
    (holds : after.phase.holds? none = operation.phase.holds? (some reply))
    (passed : ∀ key, operation.plan.guard.Names key → after.phase.HasPassed key none →
      operation.phase.HasPassed key (some reply)) : after.Ledger ((call, reply) :: log) := by
  have carried : operation.phase ≠ .abandoned := by
    intro lost
    simp [need?, lost] at need
  cases call with
  | claim key token ttl =>
      obtain ⟨own, granted⟩ := key_of_claim ledger.sound need
      obtain ⟨free, had⟩ := holds?_of_claim need
      have clear := ledger.settled carried free
      refine .of_holds sound (fun without => ?_) fun held holding => ?_
      · rw [owed_refused, clear]
        rintro rfl
        cases (holds ▸ had).symm.trans without
      · rw [holds] at holding
        obtain ⟨rfl, rfl⟩ := granted reply held holding
        rw [plan, ← own]
        refine ⟨[], ttl, log, rfl, List.forall_mem_nil _, clear, fun other names pass => ?_⟩
        rcases hasPassed_of_call need (passed other names pass) with before | ⟨look, -⟩
        · obtain ⟨_, before⟩ := Operation.holds?_of_hasPassed before
          cases free.symm.trans before
        · cases look
  | revoke key token =>
      have own := key_of_revoke ledger.sound need
      obtain ⟨held, gone⟩ := holds?_of_revoke need
      obtain ⟨checks, ttl, earlier, equal, looks, clear, -⟩ := ledger.held held
      refine .of_holds sound (fun _ => ?_) fun token holding => ?_
      · rw [owed, equal, owed_checks looks, own]
        simp [owed, clear]
      · rw [holds, gone] at holding
        cases holding
  | check key =>
      have same := holds?_of_check need (some reply)
      refine .of_holds sound (fun without => ledger.settled carried ?_) fun token holding => ?_
      · rw [← same, ← holds, without]
      · rw [holds, same] at holding
        obtain ⟨checks, ttl, earlier, rfl, looks, clear, seen⟩ := ledger.held holding
        rw [plan]
        refine ⟨(.check key, reply) :: checks, ttl, earlier, rfl, ?_, clear,
          fun other names pass => ?_⟩
        · intro entry member
          rcases List.mem_cons.mp member with rfl | before
          · exact ⟨key, rfl⟩
          · exact looks entry before
        · rcases hasPassed_of_call need (passed other names pass) with before | ⟨look, free⟩
          · exact List.mem_cons_of_mem _ (seen other names before)
          · cases look
            rw [free]
            exact List.mem_cons_self

/-- What does not touch the phase does not touch the ledger. -/
theorem kept (ledger : operation.Ledger log) (phase : after.phase = operation.phase)
    (plan : after.plan = operation.plan) : after.Ledger log := by
  constructor
  · intro acquisition found
    rw [plan]
    exact ledger.sound acquisition (phase ▸ found)
  · rw [phase]
    exact ledger.settled
  · rw [phase, plan]
    exact ledger.held
  · exact ledger.few

/-- Every event keeps the ledger, and enters the call that was made. -/
theorem step {ticket : Ticket α ε} {event : Event α ε} (ledger : ticket.operation.Ledger log)
    (permitted : ticket.Permits event) :
    (ticket.after event).operation.Ledger (event.call?.toList ++ log) := by
  have effect := ticket.effect_after permitted
  generalize (ticket.after event).operation = after at effect
  cases effect with
  | begun phase pending =>
      refine ledger.onward (by simp [phase]) ?_ rfl (by rw [phase]; rfl) fun key => False.elim
      rintro acquisition ⟨⟩
      exact ⟨rfl, rfl, Lock.Acquisition.sound_start ..⟩
  | refused phase taken =>
      exact ledger.onward (by simp [phase]) (by simp [Sound]) rfl (by rw [phase]; rfl)
        fun key => False.elim
  | @answered acquisition call reply moment phase need =>
      obtain ⟨key, guard, inner⟩ := ledger.sound acquisition phase
      refine ledger.called (by simp [need?, phase, need]) ?_ (plan_follow _) ?_
        fun other names passed => ?_
      · exact sound_follow (by simp [key]) (by simp [guard])
          (Lock.Acquisition.sound_answered inner reply moment)
      · rw [holds?_follow, Lock.Acquisition.holds?_answered, phase]
        rfl
      · rw [hasPassed_follow] at passed
        rw [phase]
        exact Lock.Acquisition.hasPassed_answered (guard ▸ names) passed
  | @rested acquisition pause moment phase need =>
      obtain ⟨key, guard, inner⟩ := ledger.sound acquisition phase
      refine ledger.onward (by simp [phase]) ?_ rfl ?_ fun other passed => ?_
      · rintro _ ⟨⟩
        exact ⟨by simp [key], by simp [guard], Lock.Acquisition.sound_rested inner moment⟩
      · rw [phase]
        exact Lock.Acquisition.holds?_rested moment
      · rw [phase]
        exact Lock.Acquisition.hasPassed_rested passed
  | ended phase =>
      exact ledger.onward (by simp [phase]) (by simp [Sound]) rfl (by rw [phase]; rfl)
        fun key => False.elim
  | released phase =>
      exact ledger.called (by simp [need?, phase]) (by simp [Sound]) rfl (by rw [phase]; rfl)
        fun key names => False.elim
  | givenUp unended =>
      refine ⟨by simp [Sound], fun carried => absurd rfl carried, ?_, ledger.few⟩
      rintro token ⟨⟩
  | _ => exact ledger.kept rfl rfl

end Ledger

theorem Life.ledger {plan : Plan} {settings : Lock.Settings} {maxWait : Duration}
    {path : List (Ticket α ε × Event α ε)} {ticket : Ticket α ε}
    (life : Life (.create plan settings maxWait) path ticket) :
    ticket.operation.Ledger (calls path) := by
  induction life with
  | start => exact .create plan settings maxWait
  | event life permitted ih =>
      rw [calls_cons]
      exact ih.step permitted

end Operation

namespace Lock

/-- Whether an acquisition can only end with a failure. -/
def Phase.FailsWith (failure : Failure) : Phase → Prop
  | .retreating _ other => other = failure
  | .failed other => other = failure
  | _ => False

namespace Acquisition

variable {acquisition : Acquisition} {key : String} {error : StoreError}

/-- A claim or a look that fails ends the acquisition. -/
theorem failsWith_answered {call : Call} (need : acquisition.need? = some (.call call))
    (seeks : ∀ key token, call ≠ .revoke key token) (moment : Moment) :
    (acquisition.answered (.error error) moment).phase.FailsWith (.unavailable call.key error) := by
  unfold need? at need
  unfold answered
  cases phase : acquisition.phase <;> simp only [phase] at need <;> cases need
  case taking attempt => cases acquisition.guard <;> rfl
  case checking token blocker => rfl
  case watching token watch => rfl
  all_goals exact absurd rfl (seeks _ _)

/-- No answer averts a failure of the store. -/
theorem failsWith_kept (fails : acquisition.phase.FailsWith (.unavailable key error))
    (reply : Reply) (moment : Moment) :
    (acquisition.answered reply moment).phase.FailsWith (.unavailable key error) := by
  unfold answered
  cases phase : acquisition.phase <;> rw [phase] at fails
  case retreating token failure =>
      obtain rfl : failure = .unavailable key error := fails
      cases acquisition.guard <;> rfl
  case failed failure => simpa [phase] using fails
  all_goals cases fails

/-- Whoever can only fail does not wait any more. -/
theorem not_failsWith_of_pause {pause : Duration} {failure : Failure}
    (need : acquisition.need? = some (.pause pause)) : ¬ acquisition.phase.FailsWith failure := by
  unfold need? at need
  cases phase : acquisition.phase <;> simp only [phase] at need <;> cases need
  all_goals exact id

end Acquisition

end Lock

namespace Operation

/-- Whether an operation can only end with a failure, if it ends. -/
def Phase.FailsWith (resource : String) (failure : Lock.Failure) : Phase α ε → Prop
  | .acquiring acquisition => acquisition.phase.FailsWith failure
  | .finished result => result = .error (.ofLock resource failure)
  | .abandoned => True
  | _ => False

/-- Whether the body of an operation has started, or never will. -/
def Phase.IsPast : Phase α ε → Prop
  | .idle | .acquiring _ => False
  | _ => True

variable {operation : Operation α ε}

theorem failsWith_follow {acquisition : Lock.Acquisition} {failure : Lock.Failure}
    (fails : acquisition.phase.FailsWith failure) :
    (operation.follow acquisition).phase.FailsWith operation.resource failure := by
  unfold follow Lock.Acquisition.result?
  cases phase : acquisition.phase <;> rw [phase] at fails
  case retreating token other => simpa [Phase.FailsWith, phase] using fails
  case failed other =>
      obtain rfl : other = failure := fails
      rfl
  all_goals cases fails

/-- Whether an answer tells that the store has failed a claim or a look. -/
def IsFault (entry : Call × Reply) (error : StoreError) : Prop :=
  entry.2 = .error error ∧ ∀ key token, entry.1 ≠ .revoke key token

namespace Ticket

variable {ticket : Ticket α ε} {event : Event α ε}

theorem failsWith_fault {entry : Call × Reply} {error : StoreError}
    (permitted : ticket.Permits event) (made : event.call? = some entry)
    (fault : IsFault entry error) :
    (ticket.after event).operation.phase.FailsWith ticket.operation.resource
      (.unavailable entry.1.key error) := by
  obtain ⟨failed, seeks⟩ := fault
  have effect := ticket.effect_after permitted
  generalize (ticket.after event).operation = after at effect
  cases effect <;> cases made
  case answered acquisition call reply moment phase need =>
      cases failed
      exact failsWith_follow (Lock.Acquisition.failsWith_answered need seeks moment)
  case released => exact absurd rfl (seeks _ _)

theorem failsWith_kept {key : String} {error : StoreError} (permitted : ticket.Permits event)
    (fails : ticket.operation.phase.FailsWith ticket.operation.resource (.unavailable key error)) :
    (ticket.after event).operation.phase.FailsWith ticket.operation.resource
      (.unavailable key error) := by
  have effect := ticket.effect_after permitted
  generalize (ticket.after event).operation = after at effect
  cases effect with
  | begun phase pending => cases phase ▸ fails
  | refused phase taken => cases phase ▸ fails
  | @answered acquisition call reply moment phase need =>
      rw [phase] at fails
      exact failsWith_follow (Lock.Acquisition.failsWith_kept fails reply moment)
  | @rested acquisition pause moment phase need =>
      rw [phase] at fails
      exact absurd fails (Lock.Acquisition.not_failsWith_of_pause need)
  | ended phase => cases phase ▸ fails
  | released phase => cases phase ▸ fails
  | givenUp unended => trivial
  | _ => exact fails

/-- Once the body runs no key is acquired any more. -/
theorem isPast_after (permitted : ticket.Permits event) (past : ticket.operation.phase.IsPast) :
    (ticket.after event).operation.phase.IsPast := by
  have effect := ticket.effect_after permitted
  generalize (ticket.after event).operation = after at effect
  cases effect with
  | begun phase pending => cases phase ▸ past
  | answered phase need => cases phase ▸ past
  | rested phase need => cases phase ▸ past
  | cancelled pending => exact past
  | late taken => exact past
  | kept phase => exact past
  | awaited => exact past
  | cutOff phase unended => exact past
  | _ => trivial

/-- Whoever has begun its body makes no call but to give its lock back. -/
theorem not_isFault_of_isPast {entry : Call × Reply} {error : StoreError}
    (permitted : ticket.Permits event) (made : event.call? = some entry)
    (past : ticket.operation.phase.IsPast) : ¬ IsFault entry error := by
  rintro ⟨-, seeks⟩
  have effect := ticket.effect_after permitted
  generalize (ticket.after event).operation = after at effect
  cases effect <;> cases made
  case answered acquisition call reply moment phase need => cases phase ▸ past
  case released => exact seeks _ _ rfl

end Ticket

namespace Life

variable {plan : Plan} {settings : Lock.Settings} {maxWait : Duration}
  {path : List (Ticket α ε × Event α ε)} {ticket : Ticket α ε}

/-- An operation claims no key but its own. -/
theorem key_of_claim (life : Life (.create plan settings maxWait) path ticket)
    {key token : String} {ttl : Duration} {reply : Reply}
    (member : (.claim key token ttl, reply) ∈ calls path) : key = plan.key := by
  induction life with
  | start => cases member
  | @event path ticket event life permitted ih =>
      rw [calls_cons, List.mem_append] at member
      rcases member with now | before
      · have samePlan : ticket.operation.plan = plan := life.plan
        cases event <;> simp [Event.call?] at now
        case answered call answer moment =>
            obtain ⟨rfl, -⟩ := now
            rw [← samePlan]
            exact (Operation.key_of_claim life.ledger.sound permitted).1
      · exact ih before

/-- Once the store has failed a claim or a look, the operation can only end with that. -/
theorem failsWith (life : Life (.create plan settings maxWait) path ticket)
    {entry : Call × Reply} {error : StoreError} (member : entry ∈ calls path)
    (fault : IsFault entry error) :
    ticket.operation.phase.FailsWith plan.key (.unavailable entry.1.key error) := by
  induction life with
  | start => cases member
  | @event path ticket event life permitted ih =>
      have resource : ticket.operation.resource = plan.key := life.resource
      rw [calls_cons, List.mem_append] at member
      rw [← resource]
      rcases member with now | before
      · exact Ticket.failsWith_fault permitted (by simpa using now) fault
      · refine Ticket.failsWith_kept permitted ?_
        rw [resource]
        exact ih before

theorem isPast (life : Life (.create plan settings maxWait) path ticket)
    {step : Ticket α ε × Event α ε} (member : step ∈ path) (started : starts step = true) :
    ticket.operation.phase.IsPast := by
  induction life with
  | start => cases member
  | @event path ticket event life permitted ih =>
      rcases List.mem_cons.mp member with rfl | earlier
      · obtain ⟨_, _, _, _, token, _, _, running⟩ := Ticket.acquiring_of_starts permitted started
        rw [running]
        trivial
      · exact Ticket.isPast_after permitted (ih earlier)

/-- The body starts at most once. -/
theorem countP_starts (life : Life (.create plan settings maxWait) path ticket) :
    path.countP starts ≤ 1 := by
  induction life with
  | start => exact Nat.zero_le 1
  | @event path ticket event life permitted ih =>
      by_cases started : starts (ticket, event) = true
      · obtain ⟨acquisition, _, _, _, _, phase, _, _⟩ :=
          Ticket.acquiring_of_starts permitted started
        have none : path.countP starts = 0 := by
          rw [List.countP_eq_zero]
          intro step member earlier
          cases phase ▸ life.isPast member earlier
        exact Nat.le_of_eq (by rw [List.countP_cons_of_pos started, none])
      · rw [List.countP_cons_of_neg started]
        exact ih

/-- No body starts if the store has failed a claim or a look. -/
theorem not_starts_of_isFault (life : Life (.create plan settings maxWait) path ticket)
    {entry : Call × Reply} {error : StoreError} (member : entry ∈ calls path)
    (fault : IsFault entry error) {step : Ticket α ε × Event α ε} (taken : step ∈ path) :
    starts step = false := by
  induction life with
  | start => cases taken
  | @event path ticket event life permitted ih =>
      have fails := (life.event permitted).failsWith member fault
      cases started : starts step with
      | false => rfl
      | true =>
          rcases List.mem_cons.mp taken with rfl | earlier
          · obtain ⟨_, _, _, _, token, _, _, running⟩ :=
              Ticket.acquiring_of_starts permitted started
            rw [running] at fails
            cases fails
          · rw [calls_cons, List.mem_append] at member
            rcases member with now | before
            · have past := life.isPast earlier started
              have made : event.call? = some entry := by simpa using now
              exact absurd fault (Ticket.not_isFault_of_isPast permitted made past)
            · exact started.symm.trans (ih before earlier)

/-- The body starts only while the operation holds its key and has seen every key free that
its guard names. -/
theorem granted_of_starts (life : Life (.create plan settings maxWait) path ticket)
    {before : Ticket α ε} {event : Event α ε} {earlier : List (Ticket α ε × Event α ε)}
    (latest : path = (before, event) :: earlier) (started : starts (before, event) = true) :
    ∃ token checks ttl prior, ticket.operation.phase = .running token ∧
      calls path = checks ++ (.claim plan.key token ttl, .ok true) :: prior ∧
      (∀ entry ∈ checks, ∃ key, entry.1 = .check key) ∧
      ∀ key, plan.guard.Names key → (.check key, .ok false) ∈ checks := by
  have ledger := life.ledger
  have samePlan : ticket.operation.plan = plan := life.plan
  subst latest
  cases life with
  | event life permitted =>
      obtain ⟨_, _, _, _, token, _, _, running⟩ := Ticket.acquiring_of_starts permitted started
      have holds : (before.after event).operation.phase.holds? none = some token := by
        rw [running]
        rfl
      obtain ⟨checks, ttl, prior, equal, looks, -, seen⟩ := ledger.held holds
      rw [samePlan] at equal seen
      exact ⟨token, checks, ttl, prior, running, equal, looks, fun key names =>
        seen key names (by rw [running]; trivial)⟩

/-- Whoever has ended owes nothing. -/
theorem owed_of_result (life : Life (.create plan settings maxWait) path ticket)
    {result : Except (Failure ε) α} (ended : ticket.operation.result? = some result) :
    owed (calls path) = [] := by
  have phase := finished_of_result ended
  exact life.ledger.settled (by simp [phase]) (by rw [phase]; rfl)

/-- Whoever has ended has tried to give back all it was granted. -/
theorem returned_of_result (life : Life (.create plan settings maxWait) path ticket)
    {result : Except (Failure ε) α} (ended : ticket.operation.result? = some result)
    {later prior : List (Call × Reply)} {key token : String} {ttl : Duration}
    (granted : calls path = later ++ (.claim key token ttl, .ok true) :: prior) :
    ∃ reply, (.revoke key token, reply) ∈ later := by
  have clear := life.owed_of_result ended
  refine Classical.byContradiction fun unreturned => ?_
  have owing : (key, token) ∈ owed (later ++ (.claim key token ttl, .ok true) :: prior) :=
    mem_owed_of_granted fun reply member => unreturned ⟨reply, member⟩
  rw [← granted, clear] at owing
  cases owing

end Life

end Operation

end Coedit
