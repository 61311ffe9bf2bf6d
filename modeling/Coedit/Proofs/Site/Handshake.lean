import Coedit.Proofs.Site.Exclusion

/-!
# Batches and documents

An operation on a document takes its key and then looks at the key of the workspace;
a batch takes the key of the workspace and then looks at the keys of its documents,
one after the other.  Each has written its own key before it reads the other's, so
one of the two sees the other, and a batch that has once seen a document's key free
is seen by whoever takes that key afterwards.
-/

namespace Coedit

open Lease

namespace Lock

/-- Whether a key has to be seen free while the own key is held. -/
def Guard.Names (key : String) : Guard → Prop
  | .unguarded => False
  | .unlessHeld blocker => key = blocker
  | .untilFree keys => key ∈ keys

/-- Whether the own key is held and another key has been seen free since.  Of the keys
that are looked at one after the other those count that are behind. -/
def Phase.HasPassed (key : String) (reply : Option Reply) : Phase → Prop
  | .checking _ blocker => key = blocker → reply = some (.ok false)
  | .watching _ watch =>
      key ∉ watch.others ∧ (key = watch.key → reply = some (.ok false))
  | .lingering _ _ watch => key ≠ watch.key ∧ key ∉ watch.others
  | .acquired _ => True
  | _ => False

namespace Acquisition

variable {acquisition : Acquisition} {key : String}

/-- Whoever has just got its own key has seen no other key since. -/
theorem not_hasPassed_taken (names : acquisition.guard.Names key) (token : String)
    (moment : Moment) : ¬ (acquisition.taken token moment).HasPassed key none := by
  intro passed
  unfold taken at passed
  cases guard : acquisition.guard <;> rw [guard] at names <;> simp only [guard] at passed
  case unguarded => exact names
  case unlessHeld blocker => cases passed names
  case untilFree keys =>
      cases keys with
      | nil => cases names
      | cons first others =>
          obtain ⟨absent, here⟩ := passed
          rcases List.mem_cons.mp names with same | later
          · cases here same
          · exact absent later

/-- Going on passes no key: the answer of the store has done so already. -/
theorem hasPassed_answered (names : acquisition.guard.Names key) {reply : Reply}
    {moment : Moment} (passed : (acquisition.answered reply moment).phase.HasPassed key none) :
    acquisition.phase.HasPassed key (some reply) := by
  unfold answered at passed
  cases phase : acquisition.phase <;> simp only [phase] at passed
  case taking attempt =>
      split at passed
      · exact absurd passed (not_hasPassed_taken names attempt.token moment)
      · cases passed
      · split at passed <;> cases passed
  case checking token blocker =>
      split at passed
      · exact fun _ => rfl
      · cases passed
      · cases passed
  case yielding => split at passed <;> cases passed
  case watching token watch =>
      simp only [Watch.next] at passed
      cases reply with
      | error error => cases passed
      | ok held =>
          cases held with
          | false =>
              refine ⟨?_, fun _ => rfl⟩
              cases others : watch.others with
              | nil => exact List.not_mem_nil
              | cons next rest =>
                  simp only [others] at passed
                  obtain ⟨absent, here⟩ := passed
                  intro member
                  rcases List.mem_cons.mp member with same | later
                  · cases here same
                  · exact absent later
          | true =>
              cases pause : watch.backoff.pause? (moment.clock 0) moment.jitter with
              | none =>
                  simp only [pause] at passed
                  cases passed
              | some found =>
                  simp only [pause] at passed
                  exact ⟨passed.2, fun same => absurd same passed.1⟩
  case retreating => split at passed <;> cases passed
  case acquired => trivial
  case lingering => exact passed
  all_goals cases passed

theorem hasPassed_rested {moment : Moment}
    (passed : (acquisition.rested moment).phase.HasPassed key none) :
    acquisition.phase.HasPassed key none := by
  unfold rested at passed
  cases phase : acquisition.phase <;> simp only [phase] at passed
  case retrying => cases passed
  case resting => cases passed
  case lingering =>
      obtain ⟨absent, here⟩ := passed
      refine ⟨fun same => ?_, absent⟩
      cases here same
  all_goals exact passed

/-- A key is passed at a look that finds it free, or has been passed before. -/
theorem hasPassed_of_call {call : Call} {reply : Reply}
    (need : acquisition.need? = some (.call call))
    (passed : acquisition.phase.HasPassed key (some reply)) :
    acquisition.phase.HasPassed key none ∨ call = .check key ∧ reply = .ok false := by
  unfold need? at need
  cases phase : acquisition.phase <;> simp only [phase] at need passed <;> cases need
  case checking token blocker =>
      by_cases same : key = blocker
      · right
        cases passed same
        exact ⟨by rw [same], rfl⟩
      · exact .inl fun equal => absurd equal same
  case watching token watch =>
      obtain ⟨absent, here⟩ := passed
      by_cases same : key = watch.key
      · right
        cases here same
        exact ⟨by rw [same, Watch.call], rfl⟩
      · exact .inl ⟨absent, fun equal => absurd equal same⟩
  all_goals cases passed

/-- Whoever has passed a key has a key of its own. -/
theorem holds?_of_hasPassed {reply : Option Reply}
    (passed : acquisition.phase.HasPassed key reply) :
    ∃ token, acquisition.phase.holds? reply = some token := by
  cases phase : acquisition.phase <;> rw [phase] at passed
  case checking token blocker => exact ⟨token, rfl⟩
  case watching token watch => exact ⟨token, rfl⟩
  case lingering token pause watch => exact ⟨token, rfl⟩
  case acquired token => exact ⟨token, rfl⟩
  all_goals cases passed

end Acquisition

end Lock

namespace Plan

/-- Leaving out repetitions leaves out no value. -/
theorem mem_eraseReps {value : String} {values : List String} :
    value ∈ values.eraseReps ↔ value ∈ values := by
  have mem_loop : ∀ rest (first : String) kept,
      value ∈ List.eraseRepsBy.loop (· == ·) first rest kept ↔
        value ∈ kept ∨ value = first ∨ value ∈ rest := by
    intro rest
    induction rest with
    | nil =>
        intro first kept
        simp [List.eraseRepsBy.loop, or_comm]
    | cons next rest ih =>
        intro first kept
        unfold List.eraseRepsBy.loop
        split
        · next equal =>
            rw [ih, eq_of_beq equal]
            grind
        · rw [ih]
          grind
  cases values with
  | nil => rfl
  | cons first rest =>
      rw [List.eraseReps, List.eraseRepsBy, mem_loop]
      simp

end Plan

namespace Operation

variable {α ε : Type} {operation : Operation α ε} {key : String}

/-- Whether the operation holds its key and has seen another key free since. -/
def Phase.HasPassed (key : String) (reply : Option Reply) : Phase α ε → Prop
  | .acquiring acquisition => acquisition.phase.HasPassed key reply
  | .running _ => True
  | _ => False

theorem hasPassed_follow (acquisition : Lock.Acquisition) :
    (operation.follow acquisition).phase.HasPassed key none ↔
      acquisition.phase.HasPassed key none := by
  unfold follow Lock.Acquisition.result?
  cases phase : acquisition.phase <;>
    simp [Phase.HasPassed, Lock.Phase.HasPassed, phase]

theorem hasPassed_answered (sound : operation.Sound) (names : operation.plan.guard.Names key)
    {reply : Reply} {moment : Lock.Moment}
    (passed : (operation.answered reply moment).phase.HasPassed key none) :
    operation.phase.HasPassed key (some reply) := by
  unfold answered at passed
  cases phase : operation.phase <;> simp only [phase] at passed
  case acquiring acquisition =>
      obtain ⟨-, guardEqual, -⟩ := sound acquisition phase
      rw [hasPassed_follow] at passed
      exact Lock.Acquisition.hasPassed_answered (guardEqual ▸ names) passed
  case running => trivial
  all_goals cases passed

theorem hasPassed_rested {moment : Lock.Moment}
    (passed : (operation.rested moment).phase.HasPassed key none) :
    operation.phase.HasPassed key none := by
  unfold rested at passed
  cases phase : operation.phase <;> simp only [phase] at passed
  case acquiring acquisition =>
      rw [hasPassed_follow] at passed
      exact Lock.Acquisition.hasPassed_rested passed
  case running => trivial
  all_goals cases passed

theorem hasPassed_of_call {call : Call} {reply : Reply}
    (need : operation.need? = some (.lock (.call call)))
    (passed : operation.phase.HasPassed key (some reply)) :
    operation.phase.HasPassed key none ∨ call = .check key ∧ reply = .ok false := by
  unfold need? at need
  cases phase : operation.phase <;> simp only [phase] at need passed
  case acquiring acquisition =>
      have need : acquisition.need? = some (.call call) := by
        simpa using need
      exact Lock.Acquisition.hasPassed_of_call need passed
  case running => cases need
  all_goals cases passed

theorem holds?_of_hasPassed {reply : Option Reply}
    (passed : operation.phase.HasPassed key reply) :
    ∃ token, operation.phase.holds? reply = some token := by
  cases phase : operation.phase <;> rw [phase] at passed
  case acquiring => exact Lock.Acquisition.holds?_of_hasPassed passed
  case running token => exact ⟨token, rfl⟩
  all_goals cases passed

end Operation

namespace Site

variable {S α ε : Type}

namespace Entry

variable {entry : Entry α ε} {key : String}

/-- Whether the operation holds its key and has seen another key free since. -/
def HasPassed (key : String) (entry : Entry α ε) : Prop :=
  entry.operation.phase.HasPassed key entry.reply

theorem hasPassed_of_running (running : entry.IsRunning) : entry.HasPassed key := by
  obtain ⟨token, phase⟩ := running
  rw [HasPassed, phase]
  trivial

theorem holds?_of_hasPassed (passed : entry.HasPassed key) :
    ∃ token, entry.holds? = some token :=
  Operation.holds?_of_hasPassed passed

theorem hasPassed_resumed (sound : entry.Sound) (names : entry.operation.plan.guard.Names key)
    {moment : Lock.Moment} (passed : (entry.resumed moment).HasPassed key) :
    entry.HasPassed key := by
  unfold resumed at passed
  split at passed
  case h_1 need =>
      unfold Operation.need? at need
      cases phase : entry.operation.phase <;> simp only [phase] at need
      case idle =>
          unfold HasPassed Operation.begin at passed
          simp only [phase] at passed
          split at passed
          · cases passed
          · cases passed
      all_goals simp at need
  case h_2 reply need answer =>
      rw [HasPassed, answer]
      exact Operation.hasPassed_answered sound.operation names passed
  case h_3 need =>
      have noReply : entry.reply = none := reply_eq_none sound (by simp [need])
      rw [HasPassed, noReply]
      exact Operation.hasPassed_rested passed
  case h_4 => exact passed

theorem hasPassed_bodyEnded {ending : Operation.Ending α ε}
    (passed : (entry.bodyEnded ending).HasPassed key) : entry.HasPassed key := by
  unfold bodyEnded Operation.bodyEnded HasPassed at passed
  split at passed
  · cases passed
  · exact passed

theorem hasPassed_cancelled : entry.cancelled.HasPassed key ↔ entry.HasPassed key := by
  rw [HasPassed, cancelled, Operation.phase_cancel, HasPassed]

end Entry

variable [Store S] [Lawful S]

/-- A look at a held key never finds it free. -/
theorem Exclusive.not_free_of_holds {site : Site S α ε} (exclusive : site.Exclusive)
    {service : ServiceId} {failure : Option StoreError} {now : Instant} {id : OperationId}
    {key : String} (lasts : site.Lasts now) (holds : site.Holds id key) :
    (site.lockers.call service failure now (.check key)).1 ≠ .ok false := by
  obtain ⟨entry, token, found, rfl, held⟩ := holds
  obtain ⟨ends, lease⟩ := exclusive.covered found held
  intro free
  have made : site.lockers.call service failure now (.check entry.key) =
      (.ok false, (site.lockers.call service failure now (.check entry.key)).2) :=
    Prod.ext free rfl
  rcases Lock.Lockers.call_cases made with ⟨error, failed, -⟩ | answered
  · cases failed
  · have live := lasts id entry ⟨token, ends⟩ found held lease
    have seen := (Lawful.check_answered answered).1.mpr ⟨_, lease, live⟩
    cases seen

/-- Of two operations that look at each other's keys, at most one has passed the other. -/
structure Apart (site : Site S α ε) : Prop where
  separate {id other : OperationId} {entry rival : Entry α ε} (different : id ≠ other)
    (found : site.operations.get? id = some entry)
    (rivalFound : site.operations.get? other = some rival)
    (names : entry.operation.plan.guard.Names rival.key)
    (rivalNames : rival.operation.plan.guard.Names entry.key)
    (passed : entry.HasPassed rival.key) : ¬ rival.HasPassed entry.key

namespace Apart

variable {site after : Site S α ε} {move : Move α ε}

omit [Store S] [Lawful S] in
theorem start (fresh : site.operations = .empty) : site.Apart := by
  constructor
  intro id other entry rival _ found
  rw [fresh] at found
  cases found

omit [Store S] [Lawful S] in
theorem transfer (apart : site.Apart) (operations : after.operations = site.operations) :
    after.Apart := by
  constructor
  rw [operations]
  exact apart.separate

omit [Store S] [Lawful S] in
theorem added (apart : site.Apart) {service : ServiceId} {plan : Plan}
    {settings : Lock.Settings} {maxWait : Duration}
    (operations : after.operations = site.operations.insert site.nextOperation
      ⟨service, .create plan settings maxWait, none⟩) : after.Apart := by
  constructor
  intro id other entry rival different found rivalFound names rivalNames passed rivalPassed
  rw [operations, Table.get?_insert] at found rivalFound
  split at found
  · cases found
    cases passed
  · split at rivalFound
    · cases rivalFound
      cases rivalPassed
    · exact apart.separate different found rivalFound names rivalNames passed rivalPassed

omit [Store S] [Lawful S] in
/-- A change of one operation keeps two operations apart if it passes only keys that
nobody holds. -/
theorem changed (apart : site.Apart) {id : OperationId} {entry changed : Entry α ε}
    (found : site.operations.get? id = some entry)
    (operations : ∀ other, after.operations.get? other =
      if id = other then some changed else site.operations.get? other)
    (plan : changed.operation.plan = entry.operation.plan)
    (passed : ∀ key, entry.operation.plan.guard.Names key → changed.HasPassed key →
      entry.HasPassed key ∨ ∀ other, ¬ site.Holds other key) : after.Apart := by
  have oneSided : ∀ {other rival}, id ≠ other → site.operations.get? other = some rival →
      entry.operation.plan.guard.Names rival.key →
      rival.operation.plan.guard.Names entry.key → changed.HasPassed rival.key →
      ¬ rival.HasPassed entry.key := by
    intro other rival different rivalFound names rivalNames passes rivalPassed
    rcases passed rival.key names passes with before | free
    · exact apart.separate different found rivalFound names rivalNames before rivalPassed
    · obtain ⟨token, holds⟩ := Entry.holds?_of_hasPassed rivalPassed
      exact free other ⟨rival, token, rivalFound, rfl, holds⟩
  have key : changed.key = entry.key := by
    rw [Entry.key, plan, Entry.key]
  constructor
  intro left right leftEntry rightEntry different leftFound rightFound names rivalNames
    leftPassed rightPassed
  rw [operations] at leftFound rightFound
  split at leftFound <;> split at rightFound
  · next same equal => exact different (same.symm.trans equal)
  · next same apart =>
      cases leftFound
      rw [key] at rivalNames rightPassed
      rw [plan] at names
      exact oneSided apart rightFound names rivalNames leftPassed rightPassed
  · next apart same =>
      cases rightFound
      rw [key] at names leftPassed
      rw [plan] at rivalNames
      exact oneSided apart leftFound rivalNames names rightPassed leftPassed
  · exact apart.separate different leftFound rightFound names rivalNames leftPassed rightPassed

/-- Every permitted move keeps operations apart. -/
theorem step (apart : site.Apart) (exclusive : site.Exclusive) (permitted : site.Permits move)
    (effect : site.Effect move after) : after.Apart := by
  cases effect with
  | nothing operations lockers next => exact apart.transfer operations
  | called operations lockers next => exact apart.transfer operations
  | asked operations store next => exact apart.transfer operations
  | added operations lockers next => exact apart.added operations
  | changed found follows operations next =>
      have sound := exclusive.sound found
      generalize after.lockers = lockers at follows
      cases follows with
      | performed need unanswered =>
          refine apart.changed found operations rfl fun key names passed => ?_
          rcases Operation.hasPassed_of_call need passed with before | ⟨rfl, free⟩
          · left
            rw [Entry.HasPassed, unanswered]
            exact before
          · right
            intro other holds
            exact exclusive.not_free_of_holds permitted holds free
      | resumed =>
          refine apart.changed found operations (Entry.plan_resumed _ _) fun key names passed => ?_
          exact .inl (Entry.hasPassed_resumed sound names passed)
      | bodyEnded =>
          refine apart.changed found operations (Entry.plan_bodyEnded _ _)
            fun key names passed => ?_
          exact .inl (Entry.hasPassed_bodyEnded passed)
      | cancelled =>
          refine apart.changed found operations (Entry.plan_cancelled _) fun key names passed => ?_
          exact .inl (Entry.hasPassed_cancelled.mp passed)

end Apart

variable {start site : Site S α ε} {path : List (Site S α ε × Move α ε)}

theorem Run.apart (run : Run start path site) (fresh : start.operations = .empty) :
    site.Apart := by
  induction run with
  | start => exact .start fresh
  | move run permitted ih => exact ih.step (run.exclusive fresh) permitted (effect_after _)

/-- A document that a batch is over and the batch look at each other's keys. -/
theorem names_of_batch (home : String) {name : String} {names : List String} (member : name ∈ names) :
    (Plan.document ⟨home, name⟩).guard.Names (Plan.batch home names).key ∧
      (Plan.batch home names).guard.Names (Plan.document ⟨home, name⟩).key := by
  refine ⟨rfl, ?_⟩
  have listed : name ∈ (names.mergeSort fun left right => decide (left ≤ right)).eraseReps :=
    Plan.mem_eraseReps.mpr (List.mem_mergeSort.mpr member)
  unfold Plan.batch
  cases equal : (names.mergeSort fun left right => decide (left ≤ right)).eraseReps with
  | nil =>
      rw [equal] at listed
      cases listed
  | cons first others =>
      rw [equal] at listed
      exact List.mem_map.mpr ⟨name, listed, rfl⟩

/-- Whether a call that takes effect is the look with which an operation on a document
of a workspace finds the workspace free. -/
def Admits (site : Site S α ε) (id : OperationId) (failure : Option StoreError) (now : Instant)
    (home : String) : Prop :=
  ∃ entry name, site.operations.get? id = some entry ∧
    entry.operation.plan = .document ⟨home, name⟩ ∧
    entry.operation.need? = some (.lock (.call (.check (Lock.workspaceKey home)))) ∧
    entry.reply = none ∧
    (site.after (.perform id failure now)).operations.get? id =
      some { entry with reply := some (.ok false) }

/-- The body of a batch never overlaps the body of an operation on one of the documents
it is over, and whenever an operation on a document is admitted, nobody holds the key
of its workspace. -/
theorem Run.batch_excludes_documents (run : Run start path site)
    (fresh : start.operations = .empty) :
    (∀ home names name id other document batch, name ∈ names →
      site.operations.get? id = some document →
      document.operation.plan = .document ⟨home, name⟩ →
      site.operations.get? other = some batch →
      batch.operation.plan = .batch home names →
      document.IsRunning → ¬ batch.IsRunning) ∧
    ∀ home id failure now, site.Permits (.perform id failure now) →
      site.Admits id failure now home →
      ∀ other, ¬ site.Holds other (Lock.workspaceKey home) := by
  constructor
  · intro home names name id other document batch member found plan batchFound batchPlan
      running batchRunning
    obtain ⟨documentNames, batchNames⟩ := names_of_batch home member
    rw [← plan, ← batchPlan] at documentNames batchNames
    have different : id ≠ other := by
      rintro rfl
      rw [found] at batchFound
      cases batchFound
      rw [plan] at batchPlan
      cases batchPlan
    exact (run.apart fresh).separate different found batchFound documentNames batchNames
      (Entry.hasPassed_of_running running) (Entry.hasPassed_of_running batchRunning)
  · rintro home id failure now lasts ⟨entry, name, found, plan, need, unanswered, free⟩ other holds
    obtain ⟨-, -, operations⟩ := perform_of_need found need unanswered failure now
    rw [after, operations, if_pos rfl] at free
    have answered : (site.lockers.call entry.service failure now
        (.check (Lock.workspaceKey home))).1 = .ok false := by
      injection free with same
      injection same with _ _ reply
      exact Option.some.inj reply
    exact (run.exclusive fresh).not_free_of_holds lasts holds answered

/-- An operation on a document gets as far as looking at the workspace. -/
def arrival : List (Move Nat Unit) :=
  [.enter 0 (.document ⟨"w", "a"⟩) none, .resume 0 (.at ⟨0⟩ .zero "first"), .perform 0 none ⟨1⟩,
    .resume 0 (.at ⟨2⟩ .zero "second")]

/-- It is admitted, and then a batch comes that names its document twice. -/
def meeting : List (Move Nat Unit) :=
  [.perform 0 none ⟨3⟩, .resume 0 (.at ⟨4⟩ .zero "second"),
    .enter 1 (.workspace "w" ["a", "b"]) none, .resume 1 (.at ⟨5⟩ .zero "second"),
    .perform 1 none ⟨6⟩, .resume 1 (.at ⟨7⟩ .zero "third"), .perform 1 none ⟨8⟩,
    .resume 1 (.at ⟨9⟩ .zero "third")]

/-- While the body of the document runs the batch holds the workspace and waits; when the
document was admitted the workspace was free. -/
theorem Run.batch_excludes_documents_meeting :
    (∃ document batch : Entry Nat Unit,
      (pair.afterAll (arrival ++ meeting)).operations.get? 0 = some document ∧
        document.IsRunning ∧
        (pair.afterAll (arrival ++ meeting)).operations.get? 1 = some batch ∧
        batch.operation.plan = .batch "w" ["b", "a", "a"] ∧ batch.holds? = some "second" ∧
        ¬ batch.IsRunning) ∧
      (pair.afterAll arrival).Admits 0 none ⟨3⟩ "w" ∧
      ∀ other, ¬ (pair.afterAll arrival).Holds other "workspace:w" := by
  have plan : Plan.batch "w" ["b", "a", "a"] = .workspace "w" ["a", "b"] := by
    have sorted : (["b", "a", "a"].mergeSort fun left right => decide (left ≤ right)) =
        ["a", "a", "b"] := by
      simp [List.mergeSort, List.MergeSort.Internal.splitInTwo]
    rw [Plan.batch, sorted]
    rfl
  constructor
  · have permitted : pair.PermitsAll (arrival ++ meeting) := by decide
    obtain ⟨path, run⟩ := Run.start.exists_of_moves permitted
    refine ⟨_, _, rfl, ⟨_, rfl⟩, rfl, plan.symm, rfl, ?_⟩
    exact (run.batch_excludes_documents rfl).1 "w" ["b", "a", "a"] "a" 0 1 _ _ (by decide) rfl rfl
      rfl plan.symm ⟨_, rfl⟩
  · have permitted : pair.PermitsAll arrival := by decide
    obtain ⟨path, run⟩ := Run.start.exists_of_moves permitted
    have admits : (pair.afterAll arrival).Admits 0 none ⟨3⟩ "w" :=
      ⟨_, "a", rfl, rfl, rfl, rfl, rfl⟩
    have lasts : (pair.afterAll arrival).Permits (.perform 0 none ⟨3⟩) := by decide
    exact ⟨admits, (run.batch_excludes_documents rfl).2 "w" 0 none ⟨3⟩ lasts admits⟩

end Site

end Coedit
