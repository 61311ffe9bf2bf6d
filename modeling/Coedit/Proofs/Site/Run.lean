import Coedit.Proofs.Lease.Contract
import Coedit.Proofs.Site.Holding

/-!
# Runs of a site

Any order of the steps of a site, made by any number of services and operations, in
which nobody is cut off half-way and no service gives back all its locks at once.
Steps come with what their surroundings promise: tokens are not used twice, and
no lease runs out while its operation still holds it.
-/

namespace Coedit.Site

variable {S α ε : Type}

/-! ## Operations of a site -/

namespace Entry

def token? (entry : Entry α ε) : Option String := entry.operation.phase.token?

/-- The token under which the operation holds its key. -/
def holds? (entry : Entry α ε) : Option String := entry.operation.phase.holds? entry.reply

def key (entry : Entry α ε) : String := entry.operation.plan.key

/-- Whether the body of the operation runs. -/
def IsRunning (entry : Entry α ε) : Prop :=
  ∃ token, entry.operation.phase = .running token

/-- An answer is on its way only to an operation that has made a call. -/
structure Sound (entry : Entry α ε) : Prop where
  operation : entry.operation.Sound
  asked : entry.reply ≠ none → ∃ call, entry.operation.need? = some (.lock (.call call))

/-- The entry once its operation has gone on. -/
def resumed (entry : Entry α ε) (moment : Lock.Moment) : Entry α ε :=
  match entry.operation.need?, entry.reply with
  | some .start, _ => ⟨entry.service, entry.operation.begin moment, none⟩
  | some (.lock (.call _)), some reply =>
      ⟨entry.service, entry.operation.answered reply moment, none⟩
  | some (.lock (.pause _)), _ => ⟨entry.service, entry.operation.rested moment, none⟩
  | _, _ => entry

/-- The entry once the body of its operation has ended. -/
def bodyEnded (entry : Entry α ε) (ending : Operation.Ending α ε) : Entry α ε :=
  { entry with operation := entry.operation.bodyEnded ending }

def cancelled (entry : Entry α ε) : Entry α ε :=
  { entry with operation := entry.operation.cancel.2 }

@[simp] theorem plan_resumed (entry : Entry α ε) (moment : Lock.Moment) :
    (entry.resumed moment).operation.plan = entry.operation.plan := by
  unfold resumed
  split <;> simp

@[simp] theorem plan_bodyEnded (entry : Entry α ε) (ending : Operation.Ending α ε) :
    (entry.bodyEnded ending).operation.plan = entry.operation.plan :=
  Operation.plan_bodyEnded ending

@[simp] theorem plan_cancelled (entry : Entry α ε) :
    entry.cancelled.operation.plan = entry.operation.plan :=
  Operation.plan_cancel

theorem token?_of_holds? {entry : Entry α ε} {token : String}
    (holds : entry.holds? = some token) : entry.token? = some token :=
  Operation.Phase.token?_of_holds? holds

end Entry

namespace Entry

variable {entry : Entry α ε}

/-- No answer is on its way to an operation that waits for no call. -/
theorem reply_eq_none (sound : entry.Sound)
    (quiet : ∀ call, entry.operation.need? ≠ some (.lock (.call call))) :
    entry.reply = none := by
  cases answer : entry.reply with
  | none => rfl
  | some reply =>
      obtain ⟨call, need⟩ := sound.asked (by simp [answer])
      exact absurd need (quiet call)

theorem reply_of_running (sound : entry.Sound) {token : String}
    (running : entry.operation.phase = .running token) : entry.reply = none :=
  reply_eq_none sound (by simp [Operation.need?, running])

/-- Going on neither begins nor ends a hold: both happen in the store. -/
theorem holds?_resumed (sound : entry.Sound) (moment : Lock.Moment) :
    (entry.resumed moment).holds? = entry.holds? := by
  unfold resumed
  split
  case h_1 need =>
      unfold Operation.need? at need
      cases phase : entry.operation.phase <;> simp only [phase] at need
      case idle =>
          unfold holds? Operation.begin
          simp only [phase]
          split <;> rfl
      all_goals simp at need
  case h_2 reply need answer =>
      unfold holds? Operation.answered
      simp only [answer]
      cases phase : entry.operation.phase with
      | acquiring acquisition =>
          rw [Operation.holds?_follow, Lock.Acquisition.holds?_answered]
          rfl
      | idle => simp [phase, Operation.Phase.holds?]
      | running token => simp [Operation.need?, phase] at need
      | releasing token ending => rfl
      | finished result => simp [phase, Operation.Phase.holds?]
      | abandoned => simp [phase, Operation.Phase.holds?]
  case h_3 need =>
      have noReply : entry.reply = none := reply_eq_none sound (by simp [need])
      unfold holds? Operation.rested
      rw [noReply]
      cases phase : entry.operation.phase with
      | acquiring acquisition =>
          rw [Operation.holds?_follow, Lock.Acquisition.holds?_rested]
          rfl
      | _ => simp [phase]
  case h_4 => rfl

/-- Going on brings no token but the new one. -/
theorem token?_resumed {moment : Lock.Moment} {token : String}
    (found : (entry.resumed moment).token? = some token) :
    entry.token? = some token ∨ token = moment.token := by
  unfold resumed at found
  split at found
  case h_1 need =>
      unfold Operation.need? at need
      cases phase : entry.operation.phase <;> simp only [phase] at need
      case idle =>
          unfold token? Operation.begin at found
          simp only [phase] at found
          split at found
          · cases found
          · cases found
            exact .inr rfl
      all_goals simp at need
  case h_2 reply need answer =>
      left
      unfold token? Operation.answered at found
      unfold token?
      cases phase : entry.operation.phase with
      | acquiring acquisition =>
          simp only [phase, Operation.token?_follow] at found
          exact Lock.Acquisition.token?_answered found
      | releasing token ending => simp [phase, Operation.Phase.token?] at found
      | _ => simpa [phase] using found
  case h_3 need =>
      unfold token? Operation.rested at found
      unfold token?
      cases phase : entry.operation.phase with
      | acquiring acquisition =>
          simp only [phase, Operation.token?_follow] at found
          exact Lock.Acquisition.token?_rested found
      | _ => exact .inl (by simpa [phase] using found)
  case h_4 => exact .inl found

theorem sound_resumed (sound : entry.Sound) (moment : Lock.Moment) :
    (entry.resumed moment).Sound := by
  unfold resumed
  split
  case h_1 need =>
      refine ⟨?_, by simp⟩
      unfold Operation.begin
      cases phase : entry.operation.phase with
      | idle =>
          intro acquisition begun
          simp only at begun
          split at begun <;> cases begun
          exact ⟨rfl, rfl, Lock.Acquisition.sound_start ..⟩
      | _ => exact sound.operation
  case h_2 reply need answer =>
      refine ⟨?_, by simp⟩
      unfold Operation.answered
      cases phase : entry.operation.phase with
      | acquiring acquisition =>
          obtain ⟨key, guard, inner⟩ := sound.operation acquisition phase
          exact Operation.sound_follow (by simp [key]) (by simp [guard])
            (Lock.Acquisition.sound_answered inner reply moment)
      | releasing token ending => simp [Operation.Sound]
      | _ => exact sound.operation
  case h_3 need =>
      refine ⟨?_, by simp⟩
      unfold Operation.rested
      cases phase : entry.operation.phase with
      | acquiring acquisition =>
          obtain ⟨key, guard, inner⟩ := sound.operation acquisition phase
          exact Operation.sound_follow (by simp [key]) (by simp [guard])
            (Lock.Acquisition.sound_rested inner moment)
      | _ => exact sound.operation
  case h_4 => exact sound

theorem holds?_bodyEnded (sound : entry.Sound) (ending : Operation.Ending α ε) :
    (entry.bodyEnded ending).holds? = entry.holds? := by
  unfold holds? bodyEnded Operation.bodyEnded
  split
  · next token running =>
      simp [running, reply_of_running sound running, Operation.Phase.holds?]
  · rfl

theorem token?_bodyEnded (ending : Operation.Ending α ε) :
    (entry.bodyEnded ending).token? = entry.token? := by
  unfold token? bodyEnded Operation.bodyEnded
  split
  · next token running => simp [running, Operation.Phase.token?]
  · rfl

theorem sound_bodyEnded (sound : entry.Sound) (ending : Operation.Ending α ε) :
    (entry.bodyEnded ending).Sound := by
  unfold bodyEnded Operation.bodyEnded
  split
  · next token running =>
      refine ⟨by simp [Operation.Sound], ?_⟩
      simp [reply_of_running sound running]
  · exact sound

theorem holds?_cancelled : entry.cancelled.holds? = entry.holds? := by
  rw [holds?, cancelled, Operation.phase_cancel, holds?]

theorem token?_cancelled : entry.cancelled.token? = entry.token? := by
  rw [token?, cancelled, Operation.phase_cancel, token?]

theorem sound_cancelled (sound : entry.Sound) : entry.cancelled.Sound := by
  constructor
  · intro acquisition phase
    rw [cancelled, Operation.phase_cancel] at phase
    simpa [cancelled] using sound.operation acquisition phase
  · simpa [cancelled, Operation.need?] using sound.asked

theorem sound_create (service : ServiceId) (plan : Plan) (settings : Lock.Settings)
    (maxWait : Duration) : (⟨service, .create plan settings maxWait, none⟩ : Entry α ε).Sound :=
  ⟨by simp [Operation.Sound, Operation.create], by simp⟩

end Entry

/-! ## What a step changes -/

theorem get?_update (site : Site S α ε) (id other : OperationId) (entry : Entry α ε)
    (operation : Operation α ε) (reply : Option Lease.Reply) :
    (site.update id entry operation reply).operations.get? other =
      if id = other then some ⟨entry.service, operation, reply⟩
      else site.operations.get? other :=
  Table.get?_insert ..

theorem get?_resume (site : Site S α ε) (id other : OperationId) (moment : Lock.Moment) :
    (site.resume id moment).operations.get? other =
      if id = other then (site.operations.get? id).map (·.resumed moment)
      else site.operations.get? other := by
  unfold resume
  cases found : site.operations.get? id with
  | none => grind
  | some entry =>
      simp only [Option.map_some, Entry.resumed]
      split
      · simp only [get?_update, *]
      · simp only [get?_update, *]
      · simp only [get?_update, *]
      · grind

theorem get?_bodyEnded (site : Site S α ε) (id other : OperationId)
    (ending : Operation.Ending α ε) :
    (site.bodyEnded id ending).operations.get? other =
      if id = other then (site.operations.get? id).map (·.bodyEnded ending)
      else site.operations.get? other := by
  unfold bodyEnded
  cases found : site.operations.get? id with
  | none => grind
  | some entry => exact get?_update ..

theorem get?_cancel (site : Site S α ε) (id other : OperationId) :
    (site.cancel id).2.operations.get? other =
      if id = other then (site.operations.get? id).map Entry.cancelled
      else site.operations.get? other := by
  unfold cancel
  cases found : site.operations.get? id with
  | none => grind
  | some entry => exact get?_update ..

/-- A call that an operation needs, once the store has answered it. -/
theorem perform_of_need [Lease.Store S] {site : Site S α ε} {id : OperationId}
    {entry : Entry α ε} {call : Lease.Call} (found : site.operations.get? id = some entry)
    (need : entry.operation.need? = some (.lock (.call call))) (unanswered : entry.reply = none)
    (failure : Option StoreError) (now : Instant) :
    (site.perform id failure now).lockers =
        (site.lockers.call entry.service failure now call).2 ∧
      (site.perform id failure now).nextOperation = site.nextOperation ∧
      ∀ other, (site.perform id failure now).operations.get? other =
        if id = other then
          some { entry with reply := some (site.lockers.call entry.service failure now call).1 }
        else site.operations.get? other := by
  unfold perform
  simp only [found, need, unanswered]
  exact ⟨rfl, rfl, fun other => get?_update ..⟩

/-- Nothing happens for an operation that needs no call or whose call is answered. -/
theorem perform_of_no_need [Lease.Store S] {site : Site S α ε} {id : OperationId}
    (idle : ∀ entry call, site.operations.get? id = some entry →
      entry.operation.need? = some (.lock (.call call)) → entry.reply ≠ none)
    (failure : Option StoreError) (now : Instant) : site.perform id failure now = site := by
  unfold perform
  cases found : site.operations.get? id with
  | none => rfl
  | some entry =>
      simp only
      split
      · next call need unanswered => exact absurd unanswered (idle entry call found need)
      · rfl

/-! ## Moves -/

/-- What can happen at a site.  Nobody is cut off half-way, and no service gives back
everything it holds. -/
inductive Move (α ε : Type) where
  /-- Somebody runs an operation on a task of its own. -/
  | enter (service : ServiceId) (plan : Plan) (maxWait : Option Duration)
  /-- Somebody hands an operation to the workers of a service. -/
  | submit (service : ServiceId) (plan : Plan) (maxWait : Option Duration)
  /-- The accounts of the workers of a service change. -/
  | work (service : ServiceId) (change : Workers → Workers)
  /-- The call an operation needs takes effect, or fails without effect. -/
  | perform (operation : OperationId) (failure : Option StoreError) (now : Instant)
  /-- An operation begins, or goes on after an answer or a pause. -/
  | resume (operation : OperationId) (moment : Lock.Moment)
  | bodyEnded (operation : OperationId) (ending : Operation.Ending α ε)
  | cancel (operation : OperationId)
  /-- A call is made outside all operations: somebody looks at a key, takes a lock by
  hand, or gives a hold back, be it late or once more. -/
  | call (service : ServiceId) (call : Lease.Call) (failure : Option StoreError)
      (now : Instant)
  /-- Somebody asks how long a key is still held. -/
  | timeLeft (key : String) (now : Instant)

/-- The site after a move. -/
def after [Lease.Store S] (site : Site S α ε) : Move α ε → Site S α ε
  | .enter service plan maxWait =>
      match site.enter service plan maxWait with
      | .ok (_, entered) => entered
      | .error _ => site
  | .submit service plan maxWait =>
      match site.submit service plan maxWait with
      | .ok (_, _, submitted) => submitted
      | .error _ => site
  | .work service change => site.modifyWorkers service change
  | .perform id failure now => site.perform id failure now
  | .resume id moment => site.resume id moment
  | .bodyEnded id ending => site.bodyEnded id ending
  | .cancel id => (site.cancel id).2
  | .call service call failure now =>
      { site with lockers := (site.lockers.call service failure now call).2 }
  | .timeLeft key now => (site.timeLeft now key).2

/-- Whether no operation goes by a token. -/
def IsFresh (site : Site S α ε) (token : String) : Prop :=
  ∀ id entry, site.operations.get? id = some entry → entry.token? ≠ some token

/-- Whether an operation holds its key under a token. -/
def IsHeld (site : Site S α ε) (token : String) : Prop :=
  ∃ id entry, site.operations.get? id = some entry ∧ entry.holds? = some token

/-- No lease under which an operation holds its key has ended. -/
def Lasts [Lease.Store S] [Lease.Lawful S] (site : Site S α ε) (now : Instant) : Prop :=
  ∀ id entry lease, site.operations.get? id = some entry → entry.holds? = some lease.token →
    Lease.Lawful.lease? site.lockers.store entry.key = some lease → lease.hasEnded now = false

/-- What the surroundings promise about a move: whoever draws a token draws a new one,
the lease of a held key lasts, and only its holder gives a held key back. -/
def Permits [Lease.Store S] [Lease.Lawful S] (site : Site S α ε) : Move α ε → Prop
  | .perform _ _ now => site.Lasts now
  | .resume _ moment => site.IsFresh moment.token
  | .call _ (.claim _ token _) _ now => site.Lasts now ∧ site.IsFresh token
  | .call _ (.revoke _ token) _ now => site.Lasts now ∧ ¬ site.IsHeld token
  | .call _ (.check _) _ now => site.Lasts now
  | _ => True

/-- The runs from a site, each with the moves it took and the sites it took them at,
latest first. -/
inductive Run [Lease.Store S] [Lease.Lawful S] (start : Site S α ε) :
    List (Site S α ε × Move α ε) → Site S α ε → Prop where
  | start : Run start [] start
  | move {path : List (Site S α ε × Move α ε)} {site : Site S α ε} {move : Move α ε}
      (run : Run start path site) (permitted : site.Permits move) :
      Run start ((site, move) :: path) (site.after move)

/-! ## Runs from a list of moves -/

theorem isFresh_iff {site : Site S α ε} {token : String} :
    site.IsFresh token ↔ ∀ entry ∈ site.operations.entries, entry.2.token? ≠ some token := by
  constructor
  · intro fresh entry member
    exact fresh entry.1 entry.2 (Table.get?_eq_some_iff.mpr member)
  · intro fresh id entry found
    exact fresh (id, entry) (Table.get?_eq_some_iff.mp found)

theorem isHeld_iff {site : Site S α ε} {token : String} :
    site.IsHeld token ↔ ∃ entry ∈ site.operations.entries, entry.2.holds? = some token := by
  constructor
  · rintro ⟨id, entry, found, held⟩
    exact ⟨(id, entry), Table.get?_eq_some_iff.mp found, held⟩
  · rintro ⟨entry, member, held⟩
    exact ⟨entry.1, entry.2, Table.get?_eq_some_iff.mpr member, held⟩

instance (site : Site S α ε) (token : String) : Decidable (site.IsFresh token) :=
  decidable_of_iff' _ isFresh_iff

instance (site : Site S α ε) (token : String) : Decidable (site.IsHeld token) :=
  decidable_of_iff' _ isHeld_iff

section

variable [Lease.Store S] [Lease.Lawful S]

/-- The site after some moves. -/
def afterAll (site : Site S α ε) (moves : List (Move α ε)) : Site S α ε :=
  moves.foldl after site

/-- Whether each of some moves is permitted when its turn comes. -/
def PermitsAll (site : Site S α ε) : List (Move α ε) → Prop
  | [] => True
  | move :: moves => site.Permits move ∧ (site.after move).PermitsAll moves

theorem Run.exists_of_moves {start site : Site S α ε} {path : List (Site S α ε × Move α ε)}
    {moves : List (Move α ε)} (run : Run start path site) (permitted : site.PermitsAll moves) :
    ∃ path, Run start path (site.afterAll moves) := by
  induction moves generalizing site path with
  | nil => exact ⟨path, run⟩
  | cons move moves ih => exact ih (run.move permitted.1) permitted.2

theorem lasts_iff {site : Site S α ε} {now : Instant} :
    site.Lasts now ↔ ∀ entry ∈ site.operations.entries,
      ∀ lease ∈ Lease.Lawful.lease? site.lockers.store entry.2.key,
        entry.2.holds? = some lease.token → lease.hasEnded now = false := by
  constructor
  · intro lasts entry member lease found held
    exact lasts entry.1 entry.2 lease (Table.get?_eq_some_iff.mpr member) held found
  · intro lasts id entry lease found held atKey
    exact lasts (id, entry) (Table.get?_eq_some_iff.mp found) lease atKey held

instance (site : Site S α ε) (now : Instant) : Decidable (site.Lasts now) :=
  decidable_of_iff' _ lasts_iff

instance (site : Site S α ε) (move : Move α ε) : Decidable (site.Permits move) :=
  match move with
  | .perform _ _ now => inferInstanceAs (Decidable (site.Lasts now))
  | .resume _ moment => inferInstanceAs (Decidable (site.IsFresh moment.token))
  | .call _ (.claim _ token _) _ now =>
      inferInstanceAs (Decidable (site.Lasts now ∧ site.IsFresh token))
  | .call _ (.revoke _ token) _ now =>
      inferInstanceAs (Decidable (site.Lasts now ∧ ¬ site.IsHeld token))
  | .call _ (.check _) _ now => inferInstanceAs (Decidable (site.Lasts now))
  | .enter .. | .submit .. | .work .. | .bodyEnded .. | .cancel _ | .timeLeft .. => .isTrue trivial

instance decidablePermitsAll (site : Site S α ε) :
    (moves : List (Move α ε)) → Decidable (site.PermitsAll moves)
  | [] => .isTrue trivial
  | move :: moves =>
      have := decidablePermitsAll (site.after move) moves
      inferInstanceAs (Decidable (site.Permits move ∧ (site.after move).PermitsAll moves))

end

/-! ## What a move does -/

/-- What a move makes of the operation it is about, and of the lockers. -/
inductive Entry.Follows [Lease.Store S] (lockers : Lock.Lockers S) (id : OperationId)
    (entry : Entry α ε) : Move α ε → Entry α ε → Lock.Lockers S → Prop where
  | performed {failure : Option StoreError} {now : Instant} {call : Lease.Call}
      (need : entry.operation.need? = some (.lock (.call call)))
      (unanswered : entry.reply = none) :
      Follows lockers id entry (.perform id failure now)
        { entry with reply := some (lockers.call entry.service failure now call).1 }
        (lockers.call entry.service failure now call).2
  | resumed {moment : Lock.Moment} :
      Follows lockers id entry (.resume id moment) (entry.resumed moment) lockers
  | bodyEnded {ending : Operation.Ending α ε} :
      Follows lockers id entry (.bodyEnded id ending) (entry.bodyEnded ending) lockers
  | cancelled : Follows lockers id entry (.cancel id) entry.cancelled lockers

/-- What a move does to a site: nothing that matters to locks, or one operation comes
to it, or one operation changes, or somebody outside all operations turns to the
store. -/
inductive Effect [Lease.Store S] (site : Site S α ε) : Move α ε → Site S α ε → Prop where
  | nothing {move : Move α ε} {after : Site S α ε}
      (operations : after.operations = site.operations)
      (lockers : after.lockers = site.lockers)
      (next : after.nextOperation = site.nextOperation) : Effect site move after
  | added {move : Move α ε} {after : Site S α ε} {service : ServiceId} {plan : Plan}
      {settings : Lock.Settings} {maxWait : Duration}
      (operations : after.operations =
        site.operations.insert site.nextOperation ⟨service, .create plan settings maxWait, none⟩)
      (lockers : after.lockers = site.lockers)
      (next : after.nextOperation = site.nextOperation + 1) : Effect site move after
  | changed {move : Move α ε} {after : Site S α ε} {id : OperationId} {entry changed : Entry α ε}
      (found : site.operations.get? id = some entry)
      (follows : entry.Follows site.lockers id move changed after.lockers)
      (operations : ∀ other, after.operations.get? other =
        if id = other then some changed else site.operations.get? other)
      (next : after.nextOperation = site.nextOperation) : Effect site move after
  | called {after : Site S α ε} {service : ServiceId} {call : Lease.Call}
      {failure : Option StoreError} {now : Instant}
      (operations : after.operations = site.operations)
      (lockers : after.lockers = (site.lockers.call service failure now call).2)
      (next : after.nextOperation = site.nextOperation) :
      Effect site (.call service call failure now) after
  | asked {after : Site S α ε} {key : String} {now : Instant}
      (operations : after.operations = site.operations)
      (lockers : after.lockers =
        { site.lockers with store := (Lease.Store.timeLeft site.lockers.store now key).2 })
      (next : after.nextOperation = site.nextOperation) :
      Effect site (.timeLeft key now) after

section

variable {site : Site S α ε}

theorem lockers_resume (id : OperationId) (moment : Lock.Moment) :
    (site.resume id moment).lockers = site.lockers ∧
      (site.resume id moment).nextOperation = site.nextOperation := by
  unfold resume
  repeat' split
  all_goals exact ⟨rfl, rfl⟩

theorem lockers_bodyEnded (id : OperationId) (ending : Operation.Ending α ε) :
    (site.bodyEnded id ending).lockers = site.lockers ∧
      (site.bodyEnded id ending).nextOperation = site.nextOperation := by
  unfold bodyEnded
  split <;> exact ⟨rfl, rfl⟩

theorem lockers_cancel (id : OperationId) :
    (site.cancel id).2.lockers = site.lockers ∧
      (site.cancel id).2.nextOperation = site.nextOperation := by
  unfold cancel
  split <;> exact ⟨rfl, rfl⟩

/-- A step that takes its operation from the table leaves a site without it alone. -/
theorem effect_of_absent [Lease.Store S] {move : Move α ε} {id : OperationId}
    (absent : site.operations.get? id = none) :
    (∀ failure now, site.Effect move (site.perform id failure now)) ∧
      (∀ moment, site.Effect move (site.resume id moment)) ∧
      (∀ ending, site.Effect move (site.bodyEnded id ending)) ∧
      site.Effect move (site.cancel id).2 := by
  unfold perform resume bodyEnded cancel
  simp only [absent]
  exact ⟨fun _ _ => .nothing rfl rfl rfl, fun _ => .nothing rfl rfl rfl,
    fun _ => .nothing rfl rfl rfl, .nothing rfl rfl rfl⟩

/-- Every move has one of these effects. -/
theorem effect_after [Lease.Store S] (move : Move α ε) : site.Effect move (site.after move) := by
  cases move with
  | enter service plan maxWait =>
      simp only [after, enter]
      split
      · next entered =>
          split at entered <;> cases entered
          exact .added rfl rfl rfl
      · exact .nothing rfl rfl rfl
  | submit service plan maxWait =>
      simp only [after, submit]
      split
      · next submitted =>
          split at submitted <;> cases submitted
          exact .added rfl rfl rfl
      · exact .nothing rfl rfl rfl
  | work service change => exact .nothing rfl rfl rfl
  | perform id failure now =>
      cases found : site.operations.get? id with
      | none => exact (effect_of_absent found).1 failure now
      | some entry =>
          cases unanswered : entry.reply with
          | some reply =>
              rw [after, perform_of_no_need (by grind)]
              exact .nothing rfl rfl rfl
          | none =>
              by_cases calls : ∃ call, entry.operation.need? = some (.lock (.call call))
              · obtain ⟨call, need⟩ := calls
                obtain ⟨lockers, next, operations⟩ :=
                  perform_of_need found need unanswered failure now
                refine .changed found ?_ operations next
                rw [after, lockers]
                exact .performed need unanswered
              · rw [after, perform_of_no_need (by grind)]
                exact .nothing rfl rfl rfl
  | resume id moment =>
      cases found : site.operations.get? id with
      | none => exact (effect_of_absent found).2.1 moment
      | some entry =>
          obtain ⟨lockers, next⟩ := site.lockers_resume id moment
          have operations : ∀ other, (site.resume id moment).operations.get? other =
              if id = other then some (entry.resumed moment)
              else site.operations.get? other := by
            simp [get?_resume, found]
          refine .changed found ?_ operations next
          rw [after, lockers]
          exact .resumed
  | bodyEnded id ending =>
      cases found : site.operations.get? id with
      | none => exact (effect_of_absent found).2.2.1 ending
      | some entry =>
          obtain ⟨lockers, next⟩ := site.lockers_bodyEnded id ending
          have operations : ∀ other, (site.bodyEnded id ending).operations.get? other =
              if id = other then some (entry.bodyEnded ending)
              else site.operations.get? other := by
            simp [get?_bodyEnded, found]
          refine .changed found ?_ operations next
          rw [after, lockers]
          exact .bodyEnded
  | cancel id =>
      cases found : site.operations.get? id with
      | none => exact (effect_of_absent found).2.2.2
      | some entry =>
          obtain ⟨lockers, next⟩ := site.lockers_cancel id
          have operations : ∀ other, (site.cancel id).2.operations.get? other =
              if id = other then some entry.cancelled else site.operations.get? other := by
            simp [get?_cancel, found]
          refine .changed found ?_ operations next
          rw [after, lockers]
          exact .cancelled
  | call service call failure now => exact .called rfl rfl rfl
  | timeLeft key now =>
      simp only [after, timeLeft]
      split <;> exact .asked rfl rfl rfl

end

end Coedit.Site
