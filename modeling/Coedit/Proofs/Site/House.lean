import Coedit.Proofs.Site.Exclusion
import Coedit.Proofs.Workers

/-!
# Houses

A house is a site with what goes on around its services: which tasks of the workers carry
which operations, how far each shutdown has come, and what is still to be given back for
operations that were given up.  A shutdown closes the workers, waits until no task is
outstanding or ends those that are, and then gives back, one by one, every token the
service holds at that moment.
-/

namespace Coedit

variable {S α ε : Type}

/-- Whether an operation has finished or was given up. -/
def Operation.hasEnded (operation : Operation α ε) : Bool :=
  match operation.phase with
  | .finished _ => true
  | .abandoned => true
  | _ => false

/-! ## What a move draws and carries on -/

namespace Site.Move

/-- The token a move draws. -/
def drawn? : Move α ε → Option String
  | .resume _ moment => some moment.token
  | .call _ (.claim _ token _) _ _ => some token
  | _ => none

/-- The operation a move carries on. -/
def carries? : Move α ε → Option OperationId
  | .perform id _ _ => some id
  | .resume id _ => some id
  | .bodyEnded id _ => some id
  | _ => none

/-- Whether a move has nothing to do with the workers of a service. -/
def isPlain : Move α ε → Bool
  | .submit .. => false
  | .work .. => false
  | _ => true

end Site.Move

/-! ## Shutdowns -/

/-- How far a shutdown has come. -/
inductive Shutdown.Stage where
  /-- It waits until no task is outstanding. -/
  | draining (drain : DrainId)
  /-- It gives locks back; these calls are left. -/
  | sweeping (left : List Lease.Call)
  deriving DecidableEq, Repr

/-- The shutdown of a service. -/
structure Shutdown where
  service : ServiceId
  stage : Shutdown.Stage
  deriving DecidableEq, Repr

structure House (S α ε : Type) where
  site : Site S α ε
  /-- The operations that the tasks of the workers carry. -/
  tasks : Table (ServiceId × WorkerId) OperationId
  /-- The operations whose tasks have been ended, and will not go on. -/
  aborted : List OperationId
  shutdowns : List Shutdown
  /-- The calls still to be made for operations that were given up. -/
  debts : List (ServiceId × Lease.Call)
  /-- The calls by which shutdowns have given locks back. -/
  swept : List (ServiceId × Lease.Call)
  /-- Every token that was ever drawn. -/
  drawn : List String

namespace House

/-- A site before anything has been done at it. -/
def opened (site : Site S α ε) : House S α ε := ⟨site, .empty, [], [], [], [], []⟩

/-- What can happen in a house. -/
inductive Move (α ε : Type) where
  /-- What can happen at a site, but for what concerns its workers. -/
  | site (move : Site.Move α ε)
  /-- Somebody hands an operation to the workers of a service. -/
  | submit (service : ServiceId) (plan : Plan) (maxWait : Option Duration)
  /-- A task begins to run. -/
  | begin (service : ServiceId)
  /-- A task has ended, and is accounted for. -/
  | leave (service : ServiceId) (worker : WorkerId)
  /-- An operation is given up half-way. -/
  | drop (operation : OperationId)
  /-- A call is made for an operation that was given up. -/
  | settle (debt : Nat) (failure : Option StoreError) (now : Instant)
  /-- The shutdown of a service begins. -/
  | shutDown (service : ServiceId)
  /-- A shutdown looks whether tasks are outstanding. -/
  | look (shutdown : Nat)
  /-- The grace of a shutdown is over, and the tasks that are left are ended at once. -/
  | giveUp (shutdown : Nat)
  /-- A shutdown gives the next lock back. -/
  | sweep (shutdown : Nat) (failure : Option StoreError) (now : Instant)

section

variable [Lease.Store S]

/-- The house once a shutdown gives locks back. -/
def sweeping (house : House S α ε) (shutdown : Nat) (service : ServiceId) : House S α ε :=
  { house with
    shutdowns := house.shutdowns.set shutdown
      ⟨service, .sweeping (house.site.revocations service)⟩ }

/-- The house after a move. -/
def after (house : House S α ε) : Move α ε → House S α ε
  | .site move =>
      { house with
        site := house.site.after move
        drawn := move.drawn?.toList ++ house.drawn }
  | .submit service plan maxWait =>
      match house.site.submit service plan maxWait with
      | .ok (worker, id, site) =>
          { house with site := site, tasks := house.tasks.insert (service, worker) id }
      | .error _ => house
  | .begin service => { house with site := house.site.after (.work service Workers.enter) }
  | .leave service worker =>
      { house with site := house.site.after (.work service (·.leave worker)) }
  | .drop id =>
      { house with
        site := (house.site.abandon id).2
        debts := house.debts ++ (house.site.abandon id).1.toList }
  | .settle debt failure now =>
      match house.debts[debt]? with
      | some (service, call) =>
          { house with
            site := house.site.after (.call service call failure now)
            debts := house.debts.eraseIdx debt }
      | none => house
  | .shutDown service =>
      { house with
        site := house.site.after (.work service fun workers => workers.close.2)
        shutdowns := house.shutdowns ++
          [⟨service, .draining (house.site.service service).workers.close.1⟩] }
  | .look shutdown =>
      match house.shutdowns[shutdown]? with
      | some ⟨service, .draining drain⟩ =>
          let looked := { house with site := house.site.after (.work service (·.look drain)) }
          if ((looked.site.service service).workers.drain drain).isWaiting then looked
          else looked.sweeping shutdown service
      | _ => house
  | .giveUp shutdown =>
      match house.shutdowns[shutdown]? with
      | some ⟨service, .draining drain⟩ =>
          let outstanding := ((house.site.service service).workers.giveUp drain).1
          sweeping
            { house with
              site := house.site.after (.work service fun workers => (workers.giveUp drain).2)
              aborted := house.aborted ++
                outstanding.filterMap fun worker => house.tasks.get? (service, worker) }
            shutdown service
      | _ => house
  | .sweep shutdown failure now =>
      match house.shutdowns[shutdown]? with
      | some ⟨service, .sweeping (call :: left)⟩ =>
          { house with
            site := house.site.after (.call service call failure now)
            shutdowns := house.shutdowns.set shutdown ⟨service, .sweeping left⟩
            swept := (service, call) :: house.swept }
      | _ => house

end

/-! ## Runs -/

/-- Whether an operation goes no further. -/
def IsOver (house : House S α ε) (id : OperationId) : Prop :=
  id ∈ house.aborted ∨
    ∃ entry ∈ house.site.operations.get? id, entry.operation.hasEnded = true

/-- What the surroundings promise about a move: tokens are new, the lease of a held key
lasts, an operation whose task was ended does not go on, and a task is accounted for only
once its operation is over.  Moves are steps between two points at which a task yields.  A
runtime that ends a task while it is between them lets it go on to the next, and a shutdown
does not wait for that; with `giveUp` such a task stops where it stands. -/
def Permits [Lease.Store S] [Lease.Lawful S] (house : House S α ε) : Move α ε → Prop
  | .site move =>
      move.isPlain = true ∧ house.site.Permits move ∧ (∀ token ∈ move.drawn?, token ∉ house.drawn) ∧
        ∀ id ∈ move.carries?, id ∉ house.aborted
  | .submit service _ _ => (house.site.services.get? service).isSome
  | .begin _ => True
  | .leave service worker => ∀ id ∈ house.tasks.get? (service, worker), house.IsOver id
  | .drop _ => True
  | .settle _ _ now => house.site.Lasts now
  | .shutDown service => (house.site.services.get? service).isSome
  | .look _ => True
  | .giveUp _ => True
  | .sweep _ _ now => house.site.Lasts now

/-- The houses that can be reached from one. -/
inductive Run [Lease.Store S] [Lease.Lawful S] (start : House S α ε) : House S α ε → Prop where
  | start : Run start start
  | move {house : House S α ε} {move : Move α ε} (run : Run start house)
      (permitted : house.Permits move) : Run start (house.after move)

/-! ## Runs from a list of moves -/

instance (house : House S α ε) (id : OperationId) : Decidable (house.IsOver id) :=
  inferInstanceAs (Decidable (id ∈ house.aborted ∨
    ∃ entry ∈ house.site.operations.get? id, entry.operation.hasEnded = true))

section

variable [Lease.Store S] [Lease.Lawful S]

instance (house : House S α ε) (move : Move α ε) : Decidable (house.Permits move) :=
  match move with
  | .site move =>
      inferInstanceAs (Decidable (move.isPlain = true ∧ house.site.Permits move ∧
        (∀ token ∈ move.drawn?, token ∉ house.drawn) ∧ ∀ id ∈ move.carries?, id ∉ house.aborted))
  | .submit service _ _ => inferInstanceAs (Decidable ((house.site.services.get? service).isSome))
  | .leave service worker =>
      inferInstanceAs (Decidable (∀ id ∈ house.tasks.get? (service, worker), house.IsOver id))
  | .settle _ _ now => inferInstanceAs (Decidable (house.site.Lasts now))
  | .shutDown service => inferInstanceAs (Decidable ((house.site.services.get? service).isSome))
  | .sweep _ _ now => inferInstanceAs (Decidable (house.site.Lasts now))
  | .begin _ | .drop _ | .look _ | .giveUp _ => .isTrue trivial

/-- The house after some moves. -/
def afterAll (house : House S α ε) (moves : List (Move α ε)) : House S α ε :=
  moves.foldl after house

/-- Whether each of some moves is permitted when its turn comes. -/
def PermitsAll (house : House S α ε) : List (Move α ε) → Prop
  | [] => True
  | move :: moves => house.Permits move ∧ (house.after move).PermitsAll moves

instance decidablePermitsAll (house : House S α ε) :
    (moves : List (Move α ε)) → Decidable (house.PermitsAll moves)
  | [] => .isTrue trivial
  | move :: moves =>
      have := decidablePermitsAll (house.after move) moves
      inferInstanceAs (Decidable (house.Permits move ∧ (house.after move).PermitsAll moves))

theorem Run.of_moves {start house : House S α ε} {moves : List (Move α ε)}
    (run : Run start house) (permitted : house.PermitsAll moves) :
    Run start (house.afterAll moves) := by
  induction moves generalizing house with
  | nil => exact run
  | cons move moves ih => exact ih (run.move permitted.1) permitted.2

end

end House

/-! ## What becomes of an operation -/

namespace Operation

variable {operation : Operation α ε}

theorem token?_of_hasEnded (ended : operation.hasEnded = true) :
    operation.phase.token? = none := by
  unfold hasEnded at ended
  cases phase : operation.phase <;> simp [phase, Phase.token?] at ended ⊢

theorem need?_of_hasEnded (ended : operation.hasEnded = true) : operation.need? = none := by
  unfold hasEnded at ended
  unfold need?
  cases phase : operation.phase <;> simp [phase] at ended ⊢

/-- An operation that is given up goes by no token any more. -/
theorem hasEnded_abandon : operation.abandon.2.hasEnded = true := by
  unfold abandon hasEnded
  cases phase : operation.phase <;> simp [phase]

theorem phase_abandon (ended : operation.hasEnded = true) :
    operation.abandon.2.phase = operation.phase := by
  unfold hasEnded at ended
  unfold abandon
  cases phase : operation.phase <;> simp [phase] at ended ⊢

/-- What is left of an operation that is given up is the token its body ran under. -/
theorem running_of_abandon {key token : String}
    (left : operation.abandon.1 = some (key, token)) :
    key = operation.plan.key ∧ operation.phase = .running token := by
  unfold abandon at left
  cases phase : operation.phase <;> simp only [phase] at left <;> cases left
  exact ⟨rfl, rfl⟩

theorem token?_of_claim {key token : String} {ttl : Duration} (sound : operation.Sound)
    (need : operation.need? = some (.lock (.call (.claim key token ttl)))) :
    operation.phase.token? = some token := by
  unfold need? at need
  cases phase : operation.phase <;> simp only [phase] at need
  case acquiring acquisition =>
      have need : acquisition.need? = some (.call (.claim key token ttl)) := by
        simpa using need
      exact (Lock.Acquisition.key_of_claim (sound acquisition phase).2.2 need).2.1
  all_goals cases need

end Operation

namespace Site

variable {site after : Site S α ε} {move : Move α ε}

namespace Entry

variable {entry later : Entry α ε} {id : OperationId} [Lease.Store S]
  {lockers lockersAfter : Lock.Lockers S}

theorem service_resumed (moment : Lock.Moment) :
    (entry.resumed moment).service = entry.service := by
  unfold resumed
  split <;> rfl

theorem resumed_of_hasEnded (ended : entry.operation.hasEnded = true) (moment : Lock.Moment) :
    entry.resumed moment = entry := by
  unfold resumed
  simp only [Operation.need?_of_hasEnded ended]

theorem bodyEnded_of_hasEnded (ended : entry.operation.hasEnded = true)
    (ending : Operation.Ending α ε) : entry.bodyEnded ending = entry := by
  unfold Operation.hasEnded at ended
  unfold bodyEnded Operation.bodyEnded
  cases phase : entry.operation.phase <;> simp [phase] at ended ⊢

theorem Follows.service (follows : entry.Follows lockers id move later lockersAfter) :
    later.service = entry.service := by
  cases follows with
  | performed need unanswered => rfl
  | resumed => exact service_resumed _
  | bodyEnded => rfl
  | cancelled => rfl

/-- An operation that has ended stays where it is. -/
theorem Follows.phase (follows : entry.Follows lockers id move later lockersAfter)
    (ended : entry.operation.hasEnded = true) :
    later.operation.phase = entry.operation.phase := by
  cases follows with
  | performed need unanswered => rfl
  | resumed => rw [resumed_of_hasEnded ended]
  | bodyEnded => rw [bodyEnded_of_hasEnded ended]
  | cancelled => exact Operation.phase_cancel

/-- An operation goes by its old token or by the one just drawn. -/
theorem Follows.token? (follows : entry.Follows lockers id move later lockersAfter)
    {token : String} (own : later.token? = some token) :
    move.drawn? = some token ∨ entry.token? = some token := by
  cases follows with
  | performed need unanswered => exact .inr own
  | resumed =>
      rcases token?_resumed own with old | rfl
      · exact .inr old
      · exact .inl rfl
  | bodyEnded => exact .inr (token?_bodyEnded _ ▸ own)
  | cancelled => exact .inr (token?_cancelled ▸ own)

end Entry

end Site

/-! ## What becomes of a site -/

namespace Lock.Lockers

/-- Whether a locker remembers a token it has to give back. -/
def Keeps (lockers : Lockers S) (id : LockerId) (token : String) : Prop :=
  ∃ locker key, lockers.members.get? id = some locker ∧ locker.held.get? token = some key

variable {lockers : Lockers S}

/-- A locker remembers no token but those it is granted. -/
theorem keeps_of_call [Lease.Store S] {id other : LockerId} {failure : Option StoreError}
    {now : Instant} {call : Lease.Call} {token : String}
    (keeps : (lockers.call id failure now call).2.Keeps other token) :
    lockers.Keeps other token ∨
      other = id ∧ (lockers.call id failure now call).1 = .ok true ∧
        ∃ key ttl, call = .claim key token ttl := by
  obtain ⟨locker, key, found, held⟩ := keeps
  unfold Lockers.call at found
  simp only [Table.get?_modify] at found
  split at found
  · next same =>
      subst same
      obtain ⟨before, foundBefore, rfl⟩ := Option.map_eq_some_iff.mp found
      unfold Locker.record at held
      split at held
      · next claimed own ttl answer =>
          rw [Table.get?_insert] at held
          split at held
          · next same => exact .inr ⟨rfl, answer, claimed, ttl, by rw [same]⟩
          · exact .inl ⟨before, key, foundBefore, held⟩
      · exact .inl ⟨before, key, foundBefore, (Table.get?_of_erase held).2⟩
      · exact .inl ⟨before, key, foundBefore, held⟩
  · exact .inl ⟨locker, key, found, held⟩

end Lock.Lockers

namespace Site

variable {site after : Site S α ε} {move : Move α ε}

/-- What a service gives back at once are the tokens its locker remembers. -/
theorem keeps_of_revocations {service : ServiceId} {call : Lease.Call}
    (member : call ∈ site.revocations service) :
    ∃ key token, call = .revoke key token ∧ site.lockers.Keeps service token := by
  unfold revocations locker Lock.Locker.revocations at member
  cases found : site.lockers.members.get? service with
  | none => simp [found, Table.empty] at member
  | some locker =>
      simp only [found, Option.getD_some, List.mem_map] at member
      obtain ⟨⟨token, key⟩, held, rfl⟩ := member
      exact ⟨key, token, rfl, locker, key, found, Table.get?_eq_some_iff.mpr held⟩

/-- What becomes of the operations of a site and of the tokens that are remembered.
No operation is lost, and nobody comes by a token that was drawn before. -/
structure Turns (site : Site S α ε) (drawn? : Option String) (after : Site S α ε) : Prop where
  onward {id : OperationId} {entry : Entry α ε}
    (found : site.operations.get? id = some entry) :
    ∃ later, after.operations.get? id = some later ∧ later.service = entry.service ∧
      (entry.operation.hasEnded = true → later.operation.phase = entry.operation.phase)
  token {id : OperationId} {later : Entry α ε} {token : String}
    (found : after.operations.get? id = some later) (own : later.token? = some token) :
    drawn? = some token ∨ ∃ entry, site.operations.get? id = some entry ∧
      entry.service = later.service ∧ entry.token? = some token
  keeps {service : ServiceId} {token : String} (keeps : after.lockers.Keeps service token) :
    (drawn? = some token ∧ after.operations = site.operations) ∨
      site.lockers.Keeps service token ∨
        ∃ id entry, site.operations.get? id = some entry ∧ entry.service = service ∧
          entry.token? = some token

/-! ## Giving an operation up -/

/-- The entry of an operation that was given up. -/
def Entry.abandoned (entry : Entry α ε) : Entry α ε :=
  ⟨entry.service, entry.operation.abandon.2, none⟩

theorem get?_abandon (site : Site S α ε) (id other : OperationId) :
    (site.abandon id).2.operations.get? other =
      if id = other then (site.operations.get? id).map Entry.abandoned
      else site.operations.get? other := by
  unfold abandon
  cases found : site.operations.get? id with
  | none => grind
  | some entry => exact get?_update ..

theorem lockers_abandon (site : Site S α ε) (id : OperationId) :
    (site.abandon id).2.lockers = site.lockers ∧
      (site.abandon id).2.nextOperation = site.nextOperation ∧
      (site.abandon id).2.services = site.services := by
  unfold abandon
  split <;> exact ⟨rfl, rfl, rfl⟩

/-- What has to be given back for an operation that is given up. -/
theorem running_of_abandon {id : OperationId} {service : ServiceId} {call : Lease.Call}
    (left : (site.abandon id).1 = some (service, call)) :
    ∃ entry token, site.operations.get? id = some entry ∧ entry.service = service ∧
      call = .revoke entry.key token ∧ entry.operation.phase = .running token := by
  unfold abandon at left
  cases found : site.operations.get? id with
  | none => simp [found] at left
  | some entry =>
      simp only [found, Option.map_eq_some_iff] at left
      obtain ⟨⟨key, token⟩, some, equal⟩ := left
      obtain ⟨rfl, running⟩ := Operation.running_of_abandon some
      cases equal
      exact ⟨entry, token, rfl, rfl, rfl, running⟩

theorem Entry.token?_abandoned (entry : Entry α ε) : entry.abandoned.token? = none :=
  Operation.token?_of_hasEnded Operation.hasEnded_abandon

theorem Entry.sound_abandoned (entry : Entry α ε) : entry.abandoned.Sound := by
  refine ⟨fun acquisition phase => ?_, by simp [abandoned]⟩
  have ended : entry.operation.abandon.2.hasEnded = true := Operation.hasEnded_abandon
  simp only [abandoned] at phase
  simp [Operation.hasEnded, phase] at ended

theorem turns_abandon (site : Site S α ε) (id : OperationId) :
    site.Turns none (site.abandon id).2 := by
  constructor
  · intro other entry found
    rw [get?_abandon]
    split
    · next same =>
        rw [same, found]
        exact ⟨_, rfl, rfl, Operation.phase_abandon⟩
    · exact ⟨entry, found, rfl, fun _ => rfl⟩
  · intro other later token found own
    rw [get?_abandon] at found
    split at found
    · obtain ⟨entry, -, rfl⟩ := Option.map_eq_some_iff.mp found
      rw [entry.token?_abandoned] at own
      cases own
    · exact .inr ⟨later, found, rfl, own⟩
  · intro service token keeps
    rw [(lockers_abandon site id).1] at keeps
    exact .inr (.inl keeps)

/-! ## What becomes of workers -/

/-- The workers of a service. -/
def workers? (site : Site S α ε) (id : ServiceId) : Option Workers :=
  (site.services.get? id).map Service.workers

theorem service_of_workers? {id : ServiceId} {workers : Workers}
    (found : site.workers? id = some workers) : (site.service id).workers = workers := by
  obtain ⟨present, known, rfl⟩ := Option.map_eq_some_iff.mp found
  simp [service, known]

theorem workers?_modifyWorkers (site : Site S α ε) (id other : ServiceId)
    (change : Workers → Workers) :
    (site.modifyWorkers id change).workers? other =
      if id = other then (site.workers? other).map change else site.workers? other := by
  simp only [workers?, modifyWorkers, Table.get?_modify]
  split
  · simp only [Option.map_map]
    rfl
  · rfl

/-- A site at which nothing has been done yet. -/
structure IsNew (site : Site S α ε) : Prop where
  operations : site.operations = .empty
  workers {service : ServiceId} {workers : Workers}
    (found : site.workers? service = some workers) : workers = .idle
  keeps (service : ServiceId) (token : String) : ¬ site.lockers.Keeps service token

theorem isNew_create (store : S) : (create store : Site S α ε).IsNew :=
  ⟨rfl, nofun, fun _ _ ⟨_, _, found, _⟩ => nomatch found⟩

theorem IsNew.addService (new : site.IsNew) (id : ServiceId) (locker : Lock.Locker)
    (settings : Service.Settings) (free : locker.held = .empty) :
    (site.addService id locker settings).IsNew := by
  refine ⟨new.operations, fun {service workers} found => ?_, fun service token keeps => ?_⟩
  · simp only [workers?, Site.addService, Table.get?_insert] at found
    split at found
    · cases found
      rfl
    · exact new.workers found
  · obtain ⟨own, key, found, held⟩ := keeps
    simp only [Site.addService, Table.get?_insert] at found
    split at found
    · cases found
      simp [free] at held
    · exact new.keeps service token ⟨own, key, found, held⟩

variable [Lease.Store S]

/-- Only what has to do with workers touches a service. -/
theorem services_after (plain : move.isPlain = true) :
    (site.after move).services = site.services := by
  cases move with
  | enter service plan maxWait =>
      simp only [Site.after, enter]
      split
      · next entered =>
          split at entered <;> cases entered
          rfl
      · rfl
  | perform id failure now =>
      simp only [Site.after, perform]
      repeat' split
      all_goals rfl
  | resume id moment =>
      simp only [Site.after, resume]
      repeat' split
      all_goals rfl
  | bodyEnded id ending =>
      simp only [Site.after, bodyEnded]
      split <;> rfl
  | cancel id =>
      simp only [Site.after, cancel]
      split <;> rfl
  | call service call failure now => rfl
  | timeLeft key now =>
      simp only [Site.after, timeLeft]
      split <;> rfl
  | submit service plan maxWait => cases plain
  | work service change => cases plain

/-- A submitted operation is carried by a task of its own, and has not begun. -/
theorem submit_ok {service : ServiceId} {plan : Plan} {maxWait : Option Duration}
    {worker : WorkerId} {id : OperationId}
    (submitted : site.submit service plan maxWait = .ok (worker, id, after)) :
    ∃ workers entry, (site.service service).workers.spawn? = some (worker, workers) ∧
      after = site.after (.submit service plan maxWait) ∧ id = site.nextOperation ∧
      after.operations = site.operations.insert id entry ∧ entry.service = service ∧
      entry.token? = none ∧
      ∀ other, after.workers? other =
        if service = other then (site.workers? other).map fun _ => workers
        else site.workers? other := by
  have same : site.after (.submit service plan maxWait) = after := by
    simp only [Site.after, submitted]
  unfold submit at submitted
  split at submitted
  · cases submitted
  · next spawned =>
      cases submitted
      refine ⟨_, _, spawned, same.symm, rfl, rfl, rfl, rfl, fun other => ?_⟩
      exact workers?_modifyWorkers ..

/-! ## What a step leaves as it was -/

variable [Lease.Lawful S] {lost : String → Prop}

theorem ExclusiveBut.turns (exclusive : site.ExclusiveBut lost) (effect : site.Effect move after) :
    site.Turns move.drawn? after := by
  constructor
  · intro id entry found
    obtain ⟨later, laterFound, rfl | follows⟩ := exclusive.onward effect found
    · exact ⟨later, laterFound, rfl, fun _ => rfl⟩
    · exact ⟨later, laterFound, follows.service, follows.phase⟩
  · intro id later token found own
    cases effect with
    | nothing operations _ _ => exact .inr ⟨later, operations ▸ found, rfl, own⟩
    | called operations _ _ => exact .inr ⟨later, operations ▸ found, rfl, own⟩
    | asked operations _ _ => exact .inr ⟨later, operations ▸ found, rfl, own⟩
    | added operations _ _ =>
        rw [operations, Table.get?_insert] at found
        split at found
        · cases found
          cases own
        · exact .inr ⟨later, found, rfl, own⟩
    | changed target follows operations _ =>
        rw [operations] at found
        split at found
        · next same =>
            cases found
            rcases follows.token? own with drawn | old
            · exact .inl drawn
            · exact .inr ⟨_, same ▸ target, follows.service.symm, old⟩
        · exact .inr ⟨later, found, rfl, own⟩
  · intro service token keeps
    cases effect with
    | nothing _ lockers _ => exact .inr (.inl (lockers ▸ keeps))
    | added _ lockers _ => exact .inr (.inl (lockers ▸ keeps))
    | asked _ lockers _ =>
        rw [lockers] at keeps
        exact .inr (.inl keeps)
    | called operations lockers _ =>
        rw [lockers] at keeps
        rcases Lock.Lockers.keeps_of_call keeps with old | ⟨-, -, key, ttl, rfl⟩
        · exact .inr (.inl old)
        · exact .inl ⟨rfl, operations⟩
    | changed target follows _ _ =>
        generalize after.lockers = lockers at follows keeps
        cases follows with
        | performed need unanswered =>
            rcases Lock.Lockers.keeps_of_call keeps with old | ⟨rfl, -, key, ttl, rfl⟩
            · exact .inr (.inl old)
            · have own := Operation.token?_of_claim (exclusive.sound target).operation need
              exact .inr (.inr ⟨_, _, target, rfl, own⟩)
        | resumed => exact .inr (.inl keeps)
        | bodyEnded => exact .inr (.inl keeps)
        | cancelled => exact .inr (.inl keeps)

/-- Nobody else notices that an operation is given up. -/
theorem ExclusiveBut.abandon (exclusive : site.ExclusiveBut lost) (id : OperationId) :
    (site.abandon id).2.ExclusiveBut lost := by
  obtain ⟨lockers, next, -⟩ := lockers_abandon site id
  cases found : site.operations.get? id with
  | none => simpa [Site.abandon, found] using exclusive
  | some entry =>
      have operations : ∀ other, (site.abandon id).2.operations.get? other =
          if id = other then some entry.abandoned else site.operations.get? other := by
        simp [get?_abandon, found]
      have tokenless := entry.token?_abandoned
      refine exclusive.changed found operations next entry.sound_abandoned (fun token own => ?_)
        (fun token holds => ?_) fun _ _ _ lease => by rw [lockers, lease]
      · rw [tokenless] at own
        cases own
      · rw [Entry.token?_of_holds? holds] at tokenless
        cases tokenless

end Site

end Coedit
