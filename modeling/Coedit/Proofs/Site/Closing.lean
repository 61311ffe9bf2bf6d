import Coedit.Proofs.Site.House

/-!
# Closing a service

A shutdown gives a lock away only when no task of its service is left that could go on.
Whoever was handed to the workers has ended by then, or has been ended; an operation on
somebody's own task is not waited for, and may find its lock gone while its body runs.
-/

namespace Coedit

namespace Site

variable {S α ε : Type} {site after : Site S α ε}

/-- What becomes of the workers of the services of a site. -/
def Employs (site after : Site S α ε) : Prop :=
  ∀ service, Option.Rel Workers.Onward (site.workers? service) (after.workers? service)

theorem Employs.of_services (services : after.services = site.services) : site.Employs after := by
  intro service
  rw [workers?, workers?, services]
  cases site.services.get? service with
  | none => exact .none
  | some service => exact .some (.refl _)

theorem employs_modify {service : ServiceId} {change : Workers → Workers}
    (onward : ∀ workers, site.workers? service = some workers →
      workers.Onward (change workers))
    (workers : ∀ other, after.workers? other =
      if service = other then (site.workers? other).map change else site.workers? other) :
    site.Employs after := by
  intro other
  rw [workers]
  cases found : site.workers? other with
  | none => split <;> exact .none
  | some present =>
      split
      · next same =>
          subst same
          exact .some (onward present found)
      · exact .some (.refl _)

theorem Employs.later {service : ServiceId} {workers : Workers} (employs : site.Employs after)
    (found : site.workers? service = some workers) :
    ∃ later, after.workers? service = some later ∧ workers.Onward later := by
  have related := employs service
  rw [found] at related
  generalize after.workers? service = next at related
  cases related with
  | some onward => exact ⟨_, rfl, onward⟩

theorem Employs.earlier {service : ServiceId} {later : Workers} (employs : site.Employs after)
    (found : after.workers? service = some later) :
    ∃ workers, site.workers? service = some workers ∧ workers.Onward later := by
  have related := employs service
  rw [found] at related
  generalize site.workers? service = before at related
  cases related with
  | some onward => exact ⟨_, rfl, onward⟩

end Site

namespace House

variable {S α ε : Type} {house : House S α ε} {move : Move α ε}

/-! ## What is so in every house -/

/-- Whether the lease under a token has been given away by a shutdown. -/
def IsLost (house : House S α ε) (token : String) : Prop :=
  ∃ service key, (service, .revoke key token) ∈ house.swept

/-- Whether a shutdown of a service has begun to give locks back. -/
def GivesBack (house : House S α ε) (shutdown : Nat) (service : ServiceId) : Prop :=
  ∃ left, house.shutdowns[shutdown]? = some ⟨service, .sweeping left⟩

/-- Whether a shutdown of a service has made a call, or is about to. -/
def Dooms (house : House S α ε) (service : ServiceId) (call : Lease.Call) : Prop :=
  (service, call) ∈ house.swept ∨
    ∃ left, ⟨service, .sweeping left⟩ ∈ house.shutdowns ∧ call ∈ left

/-- The account of a task: its operation is over unless the task is outstanding. -/
structure Carries (house : House S α ε) (service : ServiceId) (worker : WorkerId)
    (id : OperationId) (workers : Workers) : Prop where
  employed : house.site.workers? service = some workers
  numbered : worker < workers.submitted
  entered : ∃ entry, house.site.operations.get? id = some entry ∧ entry.service = service
  outstanding : worker ∈ workers.outstanding ∨ house.IsOver id

/-- How the workers of a service stand while it is shut down. -/
structure Closes (shutdown : Shutdown) (workers : Workers) : Prop where
  closed : workers.accepting = false
  draining {drain : DrainId} (stage : shutdown.stage = .draining drain) :
    drain < workers.drains.length
  sweeping {left : List Lease.Call} (stage : shutdown.stage = .sweeping left) :
    workers.outstanding = []

/-- The accounts of tasks and shutdowns agree with those of the workers. -/
structure Accounts (house : House S α ε) : Prop where
  sound {service : ServiceId} {workers : Workers}
    (found : house.site.workers? service = some workers) : workers.Sound
  task {service : ServiceId} {worker : WorkerId} {id : OperationId}
    (found : house.tasks.get? (service, worker) = some id) :
    ∃ workers, house.Carries service worker id workers
  shutdown {shutdown : Shutdown} (member : shutdown ∈ house.shutdowns) :
    ∃ workers, house.site.workers? shutdown.service = some workers ∧ Closes shutdown workers
  swept {service : ServiceId} {call : Lease.Call} (member : (service, call) ∈ house.swept) :
    ∃ shutdown, house.GivesBack shutdown service

/-- A token goes by one owner, and is given away only when its owner is not carried by a
task, or by one that was ended. -/
structure Tokens (house : House S α ε) : Prop where
  token {id : OperationId} {entry : Site.Entry α ε} {token : String}
    (found : house.site.operations.get? id = some entry) (own : entry.token? = some token) :
    token ∈ house.drawn
  keeps {service : ServiceId} {token : String} (keeps : house.site.lockers.Keeps service token) :
    token ∈ house.drawn ∧ ∀ id entry, house.site.operations.get? id = some entry →
      entry.token? = some token → entry.service = service
  debt {service : ServiceId} {call : Lease.Call} (member : (service, call) ∈ house.debts) :
    ∃ key token, call = .revoke key token ∧ token ∈ house.drawn ∧ house.site.IsFresh token
  doomed {service : ServiceId} {call : Lease.Call} (doomed : house.Dooms service call) :
    ∃ key token, call = .revoke key token ∧ token ∈ house.drawn ∧
      ∀ id entry, house.site.operations.get? id = some entry → entry.token? = some token →
        entry.service = service ∧
          ∀ place, house.tasks.get? place = some id → id ∈ house.aborted

/-- What is so in every house that can be reached. -/
structure Orderly [Lease.Store S] [Lease.Lawful S] (house : House S α ε) : Prop where
  exclusive : house.site.ExclusiveBut house.IsLost
  accounts : house.Accounts
  tokens : house.Tokens

variable [Lease.Store S] [Lease.Lawful S] {after : House S α ε}

/-! ## What a move does -/

/-- What a move makes of a house, together with what was promised about it. -/
inductive Effect (house : House S α ε) : House S α ε → Prop where
  | nothing : Effect house house
  | moved {move : Site.Move α ε} (plain : move.isPlain = true)
      (permitted : house.site.Permits move) (fresh : ∀ token ∈ move.drawn?, token ∉ house.drawn) :
      Effect house
        { house with
          site := house.site.after move
          drawn := move.drawn?.toList ++ house.drawn }
  | submitted {service : ServiceId} {plan : Plan} {maxWait : Option Duration}
      {worker : WorkerId} {id : OperationId} {site : Site S α ε}
      (known : (house.site.services.get? service).isSome)
      (submitted : house.site.submit service plan maxWait = .ok (worker, id, site)) :
      Effect house
        { house with site := site, tasks := house.tasks.insert (service, worker) id }
  /-- Workers go on, and those of them that are left had nothing more to do. -/
  | worked {service : ServiceId} {change : Workers → Workers}
      (onward : ∀ workers : Workers, workers.Onward (change workers))
      (done : ∀ worker id, house.tasks.get? (service, worker) = some id →
        ∀ workers : Workers, worker ∈ workers.outstanding →
          worker ∈ (change workers).outstanding ∨ house.IsOver id) :
      Effect house { house with site := house.site.after (.work service change) }
  | dropped {id : OperationId} :
      Effect house
        { house with
          site := (house.site.abandon id).2
          debts := house.debts ++ (house.site.abandon id).1.toList }
  | settled {service : ServiceId} {call : Lease.Call} {failure : Option StoreError}
      {now : Instant} {debts : List (ServiceId × Lease.Call)}
      (member : (service, call) ∈ house.debts) (fewer : ∀ debt ∈ debts, debt ∈ house.debts)
      (lasts : house.site.Lasts now) :
      Effect house
        { house with
          site := house.site.after (.call service call failure now)
          debts := debts }
  | closed {service : ServiceId} (known : (house.site.services.get? service).isSome) :
      Effect house (house.after (.shutDown service))
  /-- No task of a service is left, and a shutdown begins to give locks back. -/
  | drained {shutdown : Nat} {service : ServiceId} {drain : DrainId}
      {change : Workers → Workers} (aborted : List OperationId)
      (found : house.shutdowns[shutdown]? = some ⟨service, .draining drain⟩)
      (onward : ∀ workers : Workers, workers.Onward (change workers))
      (quiet : ∀ workers, house.site.workers? service = some workers →
        (change workers).outstanding = [])
      (ended : ∀ worker id, house.tasks.get? (service, worker) = some id →
        ∀ workers, house.site.workers? service = some workers →
          worker ∈ workers.outstanding → id ∈ aborted) :
      Effect house
        (sweeping
          { house with
            site := house.site.after (.work service change)
            aborted := house.aborted ++ aborted }
          shutdown service)
  | swept {shutdown : Nat} {service : ServiceId} {call : Lease.Call} {left : List Lease.Call}
      {failure : Option StoreError} {now : Instant}
      (found : house.shutdowns[shutdown]? = some ⟨service, .sweeping (call :: left)⟩)
      (lasts : house.site.Lasts now) :
      Effect house
        { house with
          site := house.site.after (.call service call failure now)
          shutdowns := house.shutdowns.set shutdown ⟨service, .sweeping left⟩
          swept := (service, call) :: house.swept }

omit [Lease.Store S] [Lease.Lawful S] in
/-- How the workers stand that a shutdown waits for. -/
theorem Accounts.draining (accounts : house.Accounts) {shutdown : Nat} {service : ServiceId}
    {drain : DrainId} (found : house.shutdowns[shutdown]? = some ⟨service, .draining drain⟩) :
    ∃ workers, house.site.workers? service = some workers ∧ workers.Sound ∧
      drain < workers.drains.length := by
  obtain ⟨workers, employed, closes⟩ := accounts.shutdown (List.mem_of_getElem? found)
  exact ⟨workers, employed, accounts.sound employed, closes.draining rfl⟩

theorem effect_look (accounts : house.Accounts) (shutdown : Nat) :
    house.Effect (house.after (.look shutdown)) := by
  simp only [House.after]
  split
  · next service drain found =>
      obtain ⟨workers, employed, sound, known⟩ := accounts.draining found
      split
      · exact .worked (fun _ => Workers.onward_look drain) fun _ _ _ _ outstanding =>
          .inl outstanding
      · next still =>
          have quiet : workers.outstanding = [] := by
            have onward := workers.onward_look drain
            refine (onward.sound sound).quiet (Nat.lt_of_lt_of_le known onward.drains) ?_
            have later : (house.site.after (.work service (·.look drain))).workers? service =
                some (workers.look drain) := by
              simp [Site.after, Site.workers?_modifyWorkers, employed]
            simpa [Site.service_of_workers? later, Drain.isWaiting] using still
          have drained := Effect.drained [] found (fun _ => Workers.onward_look drain)
            (fun _ again => by cases employed.symm.trans again; exact quiet)
            (fun _ _ _ _ again outstanding => by
              cases employed.symm.trans again
              simp [quiet] at outstanding)
          simpa using drained
  · exact .nothing

theorem effect_giveUp (shutdown : Nat) : house.Effect (house.after (.giveUp shutdown)) := by
  simp only [House.after]
  split
  · next service drain found =>
      refine .drained _ found (fun _ => Workers.onward_giveUp drain) (fun _ _ => rfl) ?_
      intro worker id task workers employed outstanding
      rw [Site.service_of_workers? employed]
      exact List.mem_filterMap.mpr ⟨worker, outstanding, task⟩
  · exact .nothing

/-- Every move that is permitted has one of these effects. -/
theorem effect_after (accounts : house.Accounts) (permitted : house.Permits move) :
    house.Effect (house.after move) := by
  cases move with
  | site move => exact .moved permitted.1 permitted.2.1 permitted.2.2.1
  | submit service plan maxWait =>
      simp only [House.after]
      split
      · next submitted => exact .submitted permitted submitted
      · exact .nothing
  | begin service =>
      exact .worked (fun _ => Workers.onward_enter) fun _ _ _ _ outstanding => .inl outstanding
  | leave service worker =>
      refine .worked (fun _ => Workers.onward_leave worker) fun other id task workers outstanding => ?_
      rw [Workers.mem_leave]
      by_cases same : other = worker
      · exact .inr (permitted id (same ▸ task))
      · exact .inl ⟨outstanding, same⟩
  | drop id => exact .dropped
  | settle debt failure now =>
      simp only [House.after]
      split
      · next found =>
          exact .settled (List.mem_of_getElem? found) (fun _ member => List.mem_of_mem_eraseIdx member)
            permitted
      · exact .nothing
  | shutDown service => exact .closed permitted
  | look shutdown => exact effect_look accounts shutdown
  | giveUp shutdown => exact effect_giveUp shutdown
  | sweep shutdown failure now =>
      simp only [House.after]
      split
      · next found => exact .swept found permitted
      · exact .nothing

/-! ## What an effect leaves as it was -/

omit [Lease.Lawful S] in
theorem employs_work (house : House S α ε) (service : ServiceId) (change : Workers → Workers)
    (onward : ∀ workers : Workers, workers.Onward (change workers)) :
    house.site.Employs (house.site.after (.work service change)) :=
  Site.employs_modify (fun _ _ => onward _) fun _ => Site.workers?_modifyWorkers ..

/-- No task and no drain is forgotten, nor that a service was closed. -/
theorem Effect.employs (effect : house.Effect after) : house.site.Employs after.site := by
  cases effect with
  | nothing => exact .of_services rfl
  | moved plain permitted fresh => exact .of_services (Site.services_after plain)
  | submitted known submitted =>
      obtain ⟨workers, entry, spawned, -, -, -, -, -, changed⟩ := Site.submit_ok submitted
      refine Site.employs_modify (fun present found => ?_) changed
      rw [Site.service_of_workers? found] at spawned
      exact Workers.onward_spawn spawned
  | worked onward done => exact house.employs_work _ _ onward
  | dropped => exact .of_services (Site.lockers_abandon _ _).2.2
  | settled member fewer lasts => exact .of_services rfl
  | closed known => exact house.employs_work _ _ fun _ => Workers.onward_close
  | drained aborted found onward quiet ended => exact house.employs_work _ _ onward
  | swept found lasts => exact .of_services rfl

/-- What happens at the site of a house: a permitted move, or somebody is given up, or a
shutdown gives a lock back, be it in use or not. -/
inductive AtSite (house after : House S α ε) : Prop where
  | moved {move : Site.Move α ε} (effect : house.site.Effect move after.site)
      (permitted : house.site.Permits move)
      (fresh : ∀ token, move.drawn? = some token → token ∉ house.drawn ∧ token ∈ after.drawn)
      (swept : after.swept = house.swept)
  | dropped {id : OperationId} (site : after.site = (house.site.abandon id).2)
      (swept : after.swept = house.swept)
  | swept {service : ServiceId} {key token : String} {failure : Option StoreError}
      {now : Instant}
      (site : after.site = house.site.after (.call service (.revoke key token) failure now))
      (lasts : house.site.Lasts now)
      (swept : after.swept = (service, .revoke key token) :: house.swept)

theorem AtSite.quiet {move : Site.Move α ε} (effect : house.site.Effect move after.site)
    (permitted : house.site.Permits move) (silent : move.drawn? = none)
    (swept : after.swept = house.swept) : AtSite house after :=
  .moved effect permitted (by simp [silent]) swept

theorem Orderly.atSite (orderly : house.Orderly) (effect : house.Effect after) :
    AtSite house after := by
  have step (move : Site.Move α ε) : house.site.Effect move (house.site.after move) :=
    Site.effect_after move
  cases effect with
  | nothing =>
      have still : house.site.Effect (.work 0 id) house.site := .nothing rfl rfl rfl
      exact .quiet still trivial rfl rfl
  | moved plain permitted fresh =>
      exact .moved (step _) permitted (fun token drawn => ⟨fresh token drawn, by simp [drawn]⟩) rfl
  | submitted known submitted =>
      obtain ⟨_, _, -, rfl, -⟩ := Site.submit_ok submitted
      exact .quiet (step (.submit ..)) trivial rfl rfl
  | worked onward done => exact .quiet (step (.work ..)) trivial rfl rfl
  | dropped => exact .dropped rfl rfl
  | settled member fewer lasts =>
      obtain ⟨key, token, rfl, -, fresh⟩ := orderly.tokens.debt member
      refine .quiet (step (.call ..)) ⟨lasts, ?_⟩ rfl rfl
      rintro ⟨id, entry, found, held⟩
      exact fresh id entry found (Site.Entry.token?_of_holds? held)
  | @closed service known =>
      exact .quiet (step (.work service fun workers => workers.close.2)) trivial rfl rfl
  | drained aborted found onward quiet ended => exact .quiet (step (.work ..)) trivial rfl rfl
  | swept found lasts =>
      obtain ⟨key, token, rfl, -⟩ := orderly.tokens.doomed
        (.inr ⟨_, List.mem_of_getElem? found, List.mem_cons_self⟩)
      exact .swept rfl lasts rfl

/-- No operation is lost, and a token that comes up is a new one. -/
theorem Orderly.turns (orderly : house.Orderly) (effect : house.Effect after) :
    ∃ drawn?, house.site.Turns drawn? after.site ∧
      ∀ token, drawn? = some token → token ∉ house.drawn ∧ token ∈ after.drawn := by
  cases orderly.atSite effect with
  | moved effect permitted fresh _ => exact ⟨_, orderly.exclusive.turns effect, fresh⟩
  | dropped site _ => exact ⟨none, site ▸ Site.turns_abandon .., by simp⟩
  | @swept service key token failure now site _ _ =>
      have effect := house.site.effect_after (.call service (.revoke key token) failure now)
      exact ⟨none, site ▸ orderly.exclusive.turns effect, by simp⟩

/-- A shutdown that gives locks back goes on doing so. -/
theorem GivesBack.onward {shutdown : Nat} {service : ServiceId}
    (gives : house.GivesBack shutdown service) (effect : house.Effect after) :
    after.GivesBack shutdown service := by
  obtain ⟨left, found⟩ := gives
  have known : shutdown < house.shutdowns.length := (List.getElem?_eq_some_iff.mp found).1
  cases effect with
  | @closed other =>
      refine ⟨left, ?_⟩
      simp only [House.after, List.getElem?_append_left known, found]
  | @drained other service drain change aborted draining =>
      refine ⟨left, ?_⟩
      rw [sweeping, List.getElem?_set_ne (by grind), found]
  | @swept other service call rest failure now sweeping =>
      by_cases same : other = shutdown
      · subst same
        cases found.symm.trans sweeping
        exact ⟨rest, List.getElem?_set_self known⟩
      · refine ⟨left, ?_⟩
        rw [List.getElem?_set_ne same, found]
  | _ => exact ⟨left, found⟩

theorem Effect.aborted (effect : house.Effect after) {id : OperationId}
    (aborted : id ∈ house.aborted) : id ∈ after.aborted := by
  cases effect with
  | drained others found onward quiet ended => exact List.mem_append_left _ aborted
  | _ => exact aborted

/-- An operation that goes no further never does again. -/
theorem Orderly.isOver_after (orderly : house.Orderly) (effect : house.Effect after) {id : OperationId}
    (isOver : house.IsOver id) : after.IsOver id := by
  rcases isOver with aborted | ⟨entry, found, ended⟩
  · exact .inl (effect.aborted aborted)
  · obtain ⟨_, turns, _⟩ := orderly.turns effect
    obtain ⟨later, laterFound, -, stays⟩ := turns.onward found
    refine .inr ⟨later, laterFound, ?_⟩
    rw [Operation.hasEnded, stays ended]
    exact ended

/-! ## Accounts -/

theorem Closes.onward {shutdown : Shutdown} {workers later : Workers}
    (closes : Closes shutdown workers) (onward : workers.Onward later) : Closes shutdown later :=
  ⟨onward.closed closes.closed, fun stage => Nat.lt_of_lt_of_le (closes.draining stage) onward.drains,
    fun stage => onward.quiet closes.closed (closes.sweeping stage)⟩

/-- The account of a task is kept if its worker is still outstanding, or is done. -/
theorem Orderly.carries (orderly : house.Orderly) (effect : house.Effect after)
    {service : ServiceId} {worker : WorkerId} {id : OperationId}
    (task : house.tasks.get? (service, worker) = some id)
    (outstanding : ∀ workers later, house.site.workers? service = some workers →
      after.site.workers? service = some later → worker ∈ workers.outstanding →
      worker ∈ later.outstanding ∨ after.IsOver id) :
    ∃ workers, after.Carries service worker id workers := by
  obtain ⟨workers, employed, numbered, ⟨entry, found, own⟩, stands⟩ := orderly.accounts.task task
  obtain ⟨later, employedLater, onward⟩ := effect.employs.later employed
  obtain ⟨_, turns, _⟩ := orderly.turns effect
  obtain ⟨next, foundNext, sameService, -⟩ := turns.onward found
  refine ⟨later, employedLater, Nat.lt_of_lt_of_le numbered onward.submitted,
    ⟨next, foundNext, sameService.trans own⟩, ?_⟩
  rcases stands with busy | isOver
  · exact outstanding workers later employed employedLater busy
  · exact .inr (orderly.isOver_after effect isOver)

omit [Lease.Lawful S] in
/-- Only the workers of one service change. -/
theorem workers?_work {service other : ServiceId} {change : Workers → Workers}
    {workers later : Workers} (employed : house.site.workers? other = some workers)
    (employedLater :
      (house.site.after (.work service change)).workers? other = some later) :
    (service = other ∧ later = change workers) ∨ (service ≠ other ∧ later = workers) := by
  simp only [Site.after, Site.workers?_modifyWorkers] at employedLater
  split at employedLater
  · next same =>
      rw [employed] at employedLater
      cases employedLater
      exact .inl ⟨same, rfl⟩
  · next apart =>
      cases employed.symm.trans employedLater
      exact .inr ⟨apart, rfl⟩

/-- Whoever hands an operation over adds a task to the workers of one service. -/
theorem Orderly.task_submitted (orderly : house.Orderly) {other : ServiceId} {plan : Plan}
    {maxWait : Option Duration} {taken : WorkerId} {new : OperationId} {site : Site S α ε}
    (known : (house.site.services.get? other).isSome)
    (submitted : house.site.submit other plan maxWait = .ok (taken, new, site))
    {service : ServiceId} {worker : WorkerId} {id : OperationId}
    (task : (house.tasks.insert (other, taken) new).get? (service, worker) = some id) :
    ∃ workers, Carries
      { house with site := site, tasks := house.tasks.insert (other, taken) new }
      service worker id workers := by
  obtain ⟨workers, entry, spawned, -, rfl, operations, own, -, changed⟩ :=
    Site.submit_ok submitted
  obtain ⟨present, isPresent⟩ := Option.isSome_iff_exists.mp known
  have employed : house.site.workers? other = some present.workers := by
    simp [Site.workers?, isPresent]
  rw [Site.service_of_workers? employed] at spawned
  obtain ⟨-, rfl, grown⟩ := Workers.spawn?_eq_some spawned
  rw [Table.get?_insert] at task
  split at task
  · next same =>
      cases same
      cases task
      refine ⟨workers, ?_, ?_, ⟨entry, ?_, own⟩, .inl ?_⟩
      · simp only [changed, if_true, employed, Option.map_some]
      · rw [grown]
        exact Nat.lt_succ_self _
      · simp only [operations, Table.get?_insert_self]
      · simp [grown]
  · refine orderly.carries (.submitted known submitted) task fun before later has hasLater busy => ?_
    simp only [changed] at hasLater
    split at hasLater
    · next same =>
        subst same
        cases employed.symm.trans has
        rw [employed] at hasLater
        cases hasLater
        rw [grown]
        exact .inl (List.mem_append_left _ busy)
    · cases has.symm.trans hasLater
      exact .inl busy

theorem Orderly.task (orderly : house.Orderly) (effect : house.Effect after)
    {service : ServiceId} {worker : WorkerId} {id : OperationId}
    (task : after.tasks.get? (service, worker) = some id) :
    ∃ workers, after.Carries service worker id workers := by
  have unchanged (same : after.site.workers? service = house.site.workers? service)
      (task : house.tasks.get? (service, worker) = some id) :=
    orderly.carries effect task fun workers later employed employedLater busy => by
      rw [same, employed] at employedLater
      cases employedLater
      exact .inl busy
  have whole := effect
  cases effect with
  | nothing => exact unchanged rfl task
  | moved plain permitted fresh =>
      exact unchanged (by simp only [Site.workers?, Site.services_after plain]) task
  | submitted known submitted => exact orderly.task_submitted known submitted task
  | @worked other change onward done =>
      refine orderly.carries whole task fun workers later employed employedLater busy => ?_
      rcases workers?_work employed employedLater with ⟨rfl, rfl⟩ | ⟨-, rfl⟩
      · rcases done worker id task workers busy with still | isOver
        · exact .inl still
        · exact .inr (orderly.isOver_after whole isOver)
      · exact .inl busy
  | dropped => exact unchanged (by simp only [Site.workers?, (Site.lockers_abandon _ _).2.2]) task
  | settled member fewer lasts => exact unchanged rfl task
  | @closed other known =>
      refine orderly.carries whole task fun workers later employed employedLater busy => ?_
      rcases workers?_work employed employedLater with ⟨-, rfl⟩ | ⟨-, rfl⟩ <;> exact .inl busy
  | @drained shutdown other drain change aborted found onward quiet ended =>
      refine orderly.carries whole task fun workers later employed employedLater busy => ?_
      rcases workers?_work employed employedLater with ⟨rfl, -⟩ | ⟨-, rfl⟩
      · exact .inr (.inl (List.mem_append_right _ (ended worker id task workers employed busy)))
      · exact .inl busy
  | swept found lasts => exact unchanged rfl task

theorem Orderly.shutdown (orderly : house.Orderly) (effect : house.Effect after)
    {shutdown : Shutdown} (member : shutdown ∈ after.shutdowns) :
    ∃ workers, after.site.workers? shutdown.service = some workers ∧ Closes shutdown workers := by
  have unchanged (member : shutdown ∈ house.shutdowns) : ∃ workers,
      after.site.workers? shutdown.service = some workers ∧ Closes shutdown workers := by
    obtain ⟨workers, employed, closes⟩ := orderly.accounts.shutdown member
    obtain ⟨later, employedLater, onward⟩ := effect.employs.later employed
    exact ⟨later, employedLater, closes.onward onward⟩
  cases effect with
  | @closed service known =>
      simp only [House.after, List.mem_append, List.mem_singleton] at member
      rcases member with old | rfl
      · exact unchanged old
      · obtain ⟨present, isPresent⟩ := Option.isSome_iff_exists.mp known
        have employed : house.site.workers? service = some present.workers := by
          simp [Site.workers?, isPresent]
        refine ⟨present.workers.close.2, ?_, rfl, fun stage => ?_, fun stage => ?_⟩
        · simp only [House.after, Site.after, Site.workers?_modifyWorkers, if_true, employed,
            Option.map_some]
        · cases stage
          rw [Site.service_of_workers? employed]
          simp [Workers.close]
        · cases stage
  | @drained place service drain change aborted found onward quiet ended =>
      rcases List.mem_or_eq_of_mem_set member with old | rfl
      · exact unchanged old
      · obtain ⟨workers, employed, closes⟩ :=
          orderly.accounts.shutdown (List.mem_of_getElem? found)
        refine ⟨change workers, ?_, (onward workers).closed closes.closed, fun stage => ?_,
          fun _ => quiet workers employed⟩
        · simp only [sweeping, Site.after, Site.workers?_modifyWorkers, if_true, employed,
            Option.map_some]
        · cases stage
  | @swept place service call left failure now found lasts =>
      rcases List.mem_or_eq_of_mem_set member with old | rfl
      · exact unchanged old
      · obtain ⟨workers, employed, closes⟩ :=
          orderly.accounts.shutdown (List.mem_of_getElem? found)
        refine ⟨workers, employed, closes.closed, fun stage => ?_, fun _ => closes.sweeping rfl⟩
        cases stage
  | _ => exact unchanged member

theorem Orderly.accounts_after (orderly : house.Orderly) (effect : house.Effect after) :
    after.Accounts := by
  refine ⟨fun found => ?_, orderly.task effect, orderly.shutdown effect, fun {service call} member => ?_⟩
  · obtain ⟨workers, employed, onward⟩ := effect.employs.earlier found
    exact onward.sound (orderly.accounts.sound employed)
  · have old (member : (service, call) ∈ house.swept) : ∃ shutdown,
        after.GivesBack shutdown service := by
      obtain ⟨shutdown, gives⟩ := orderly.accounts.swept member
      exact ⟨shutdown, gives.onward effect⟩
    cases effect with
    | @swept shutdown other next left failure now found lasts =>
        rcases List.mem_cons.mp member with new | before
        · cases new
          have known := (List.getElem?_eq_some_iff.mp found).1
          exact ⟨shutdown, left, List.getElem?_set_self known⟩
        · exact old before
    | _ => exact old member

/-! ## Leases -/

/-- Nobody is in the way of a hold, but a shutdown that gives its lock away. -/
theorem Orderly.exclusive_after (orderly : house.Orderly) (effect : house.Effect after) :
    after.site.ExclusiveBut after.IsLost := by
  have same (swept : after.swept = house.swept) : after.IsLost = house.IsLost := by
    funext token
    rw [IsLost, IsLost, swept]
  cases orderly.atSite effect with
  | moved effect permitted _ swept =>
      rw [same swept]
      exact orderly.exclusive.step permitted effect
  | dropped site swept =>
      rw [same swept, site]
      exact orderly.exclusive.abandon _
  | swept site lasts swept =>
      rw [site]
      refine orderly.exclusive.transfer ?_ rfl rfl fun present holds kept lease => ?_
      · rintro other ⟨service, key, member⟩
        exact ⟨service, key, swept ▸ List.mem_cons_of_mem _ member⟩
      · refine Site.ExclusiveBut.lease_kept lasts present holds lease ?_
        rintro ⟨⟩
        exact kept ⟨_, _, swept ▸ List.mem_cons_self⟩

/-! ## Tokens -/

/-- A token that was drawn before goes by the same owner. -/
theorem Orderly.owner (orderly : house.Orderly) (effect : house.Effect after) {token : String}
    (drawn : token ∈ house.drawn) {id : OperationId} {later : Site.Entry α ε}
    (found : after.site.operations.get? id = some later) (own : later.token? = some token) :
    ∃ entry, house.site.operations.get? id = some entry ∧ entry.service = later.service ∧
      entry.token? = some token := by
  obtain ⟨drawn?, turns, fresh⟩ := orderly.turns effect
  rcases turns.token found own with new | old
  · exact absurd drawn (fresh token new).1
  · exact old

theorem Effect.drawn (effect : house.Effect after) {token : String} (drawn : token ∈ house.drawn) :
    token ∈ after.drawn := by
  cases effect with
  | moved plain permitted fresh => exact List.mem_append_right _ drawn
  | _ => exact drawn

/-- A task comes with an operation that has yet to draw a token. -/
theorem Effect.task (effect : house.Effect after) {place : ServiceId × WorkerId} {id : OperationId}
    (task : after.tasks.get? place = some id) :
    house.tasks.get? place = some id ∨
      ∀ later, after.site.operations.get? id = some later → later.token? = none := by
  cases effect with
  | submitted known submitted =>
      obtain ⟨workers, entry, -, -, rfl, operations, -, tokenless, -⟩ := Site.submit_ok submitted
      rw [Table.get?_insert] at task
      split at task
      · cases task
        refine .inr fun later found => ?_
        rw [operations, Table.get?_insert_self] at found
        cases found
        exact tokenless
      · exact .inl task
  | _ => exact .inl task

/-- What comes to be given back is what a service remembers when a shutdown of it begins
to give locks back. -/
theorem Effect.dooms (effect : house.Effect after) {service : ServiceId} {call : Lease.Call}
    (dooms : after.Dooms service call) :
    house.Dooms service call ∨
      call ∈ after.site.revocations service ∧ ∃ shutdown, after.GivesBack shutdown service := by
  cases effect with
  | @closed other known =>
      refine .inl (dooms.imp id fun ⟨left, member, listed⟩ => ⟨left, ?_, listed⟩)
      simpa [House.after] using member
  | @drained shutdown other drain change aborted found onward quiet ended =>
      rcases dooms with made | ⟨left, member, listed⟩
      · exact .inl (.inl made)
      · rcases List.mem_or_eq_of_mem_set member with old | new
        · exact .inl (.inr ⟨left, old, listed⟩)
        · cases new
          have known := (List.getElem?_eq_some_iff.mp found).1
          exact .inr ⟨listed, shutdown, _, List.getElem?_set_self known⟩
  | @swept shutdown other made rest failure now found lasts =>
      left
      rcases dooms with made | ⟨left, member, listed⟩
      · rcases List.mem_cons.mp made with new | old
        · cases new
          exact .inr ⟨_, List.mem_of_getElem? found, List.mem_cons_self⟩
        · exact .inl old
      · rcases List.mem_or_eq_of_mem_set member with old | new
        · exact .inr ⟨left, old, listed⟩
        · cases new
          exact .inr ⟨_, List.mem_of_getElem? found, List.mem_cons_of_mem _ listed⟩
  | _ => exact .inl dooms

theorem Effect.debt (effect : house.Effect after) {service : ServiceId} {call : Lease.Call}
    (member : (service, call) ∈ after.debts) :
    (service, call) ∈ house.debts ∨
      ∃ id, (house.site.abandon id).1 = some (service, call) ∧
        after.site = (house.site.abandon id).2 := by
  cases effect with
  | @dropped id =>
      rcases List.mem_append.mp member with old | new
      · exact .inl old
      · exact .inr ⟨id, Option.mem_toList.mp new, rfl⟩
  | settled member' fewer lasts => exact .inl (fewer _ member)
  | _ => exact .inl member

/-- What a locker remembers was drawn for one operation of its service, or for none. -/
theorem Orderly.keeps_after (orderly : house.Orderly) (effect : house.Effect after)
    {service : ServiceId} {token : String} (keeps : after.site.lockers.Keeps service token) :
    token ∈ after.drawn ∧ ∀ id later, after.site.operations.get? id = some later →
      later.token? = some token → later.service = service := by
  obtain ⟨drawn?, turns, fresh⟩ := orderly.turns effect
  rcases turns.keeps keeps with ⟨new, same⟩ | old | ⟨id, entry, found, own, goes⟩
  · obtain ⟨undrawn, drawn⟩ := fresh token new
    refine ⟨drawn, fun id later found goes => ?_⟩
    rw [same] at found
    exact absurd (orderly.tokens.token found goes) undrawn
  · obtain ⟨drawn, owned⟩ := orderly.tokens.keeps old
    refine ⟨effect.drawn drawn, fun id later found goes => ?_⟩
    obtain ⟨entry, foundEntry, same, goesEntry⟩ := orderly.owner effect drawn found goes
    exact same ▸ owned id entry foundEntry goesEntry
  · have drawn := orderly.tokens.token found goes
    refine ⟨effect.drawn drawn, fun other later foundLater goesLater => ?_⟩
    obtain ⟨rival, foundRival, same, goesRival⟩ :=
      orderly.owner effect drawn foundLater goesLater
    obtain rfl := orderly.exclusive.distinct found goes foundRival goesRival
    cases found.symm.trans foundRival
    exact same ▸ own

/-- What is to be given back for an operation that was given up goes by nobody. -/
theorem Orderly.debt_after (orderly : house.Orderly) (effect : house.Effect after)
    {service : ServiceId} {call : Lease.Call} (member : (service, call) ∈ after.debts) :
    ∃ key token, call = .revoke key token ∧ token ∈ after.drawn ∧ after.site.IsFresh token := by
  rcases effect.debt member with old | ⟨id, left, abandoned⟩
  · obtain ⟨key, token, rfl, drawn, fresh⟩ := orderly.tokens.debt old
    refine ⟨key, token, rfl, effect.drawn drawn, fun id later found own => ?_⟩
    obtain ⟨entry, foundEntry, -, ownEntry⟩ := orderly.owner effect drawn found own
    exact fresh id entry foundEntry ownEntry
  · obtain ⟨entry, token, found, -, rfl, running⟩ := Site.running_of_abandon left
    have goes : entry.token? = some token := by
      simp [Site.Entry.token?, running, Operation.Phase.token?]
    have drawn := orderly.tokens.token found goes
    refine ⟨entry.key, token, rfl, effect.drawn drawn, fun other later foundLater own => ?_⟩
    obtain ⟨rival, foundRival, -, goesRival⟩ := orderly.owner effect drawn foundLater own
    obtain rfl := orderly.exclusive.distinct found goes foundRival goesRival
    rw [abandoned, Site.get?_abandon, if_pos rfl, found] at foundLater
    cases foundLater
    rw [entry.token?_abandoned] at own
    cases own

omit [Lease.Store S] [Lease.Lawful S] in
/-- Once a shutdown gives locks back, the tasks of its service are over. -/
theorem Accounts.isOver (accounts : house.Accounts) {shutdown : Nat} {service : ServiceId}
    (gives : house.GivesBack shutdown service) {worker : WorkerId} {id : OperationId}
    (task : house.tasks.get? (service, worker) = some id) : house.IsOver id := by
  obtain ⟨left, found⟩ := gives
  obtain ⟨workers, carries⟩ := accounts.task task
  obtain ⟨present, employed, closes⟩ := accounts.shutdown (List.mem_of_getElem? found)
  cases employed.symm.trans carries.employed
  rcases carries.outstanding with busy | isOver
  · simp [closes.sweeping rfl] at busy
  · exact isOver

/-- What a shutdown gives back belongs to its own service, and not to a task that could
go on. -/
theorem Orderly.doomed_after (orderly : house.Orderly) (effect : house.Effect after)
    {service : ServiceId} {call : Lease.Call} (dooms : after.Dooms service call) :
    ∃ key token, call = .revoke key token ∧ token ∈ after.drawn ∧
      ∀ id later, after.site.operations.get? id = some later → later.token? = some token →
        later.service = service ∧
          ∀ place, after.tasks.get? place = some id → id ∈ after.aborted := by
  rcases effect.dooms dooms with old | ⟨listed, shutdown, gives⟩
  · obtain ⟨key, token, rfl, drawn, owned⟩ := orderly.tokens.doomed old
    refine ⟨key, token, rfl, effect.drawn drawn, fun id later found own => ?_⟩
    obtain ⟨entry, foundEntry, same, ownEntry⟩ := orderly.owner effect drawn found own
    obtain ⟨ownService, tasks⟩ := owned id entry foundEntry ownEntry
    refine ⟨same ▸ ownService, fun place task => ?_⟩
    rcases effect.task task with before | tokenless
    · exact effect.aborted (tasks place before)
    · rw [tokenless later found] at own
      cases own
  · have accounts := orderly.accounts_after effect
    obtain ⟨key, token, rfl, keeps⟩ := Site.keeps_of_revocations listed
    obtain ⟨drawn, owned⟩ := orderly.keeps_after effect keeps
    refine ⟨key, token, rfl, drawn, fun id later found own => ⟨owned id later found own, ?_⟩⟩
    rintro ⟨home, worker⟩ task
    obtain ⟨workers, carries⟩ := accounts.task task
    obtain ⟨entry, foundEntry, atHome⟩ := carries.entered
    cases found.symm.trans foundEntry
    obtain rfl : service = home := (owned id later found own).symm.trans atHome
    rcases accounts.isOver gives task with aborted | ⟨entry, foundEntry, ended⟩
    · exact aborted
    · cases found.symm.trans foundEntry
      rw [Site.Entry.token?, Operation.token?_of_hasEnded ended] at own
      cases own

theorem Orderly.tokens_after (orderly : house.Orderly) (effect : house.Effect after) :
    after.Tokens := by
  refine ⟨fun {id later token} found own => ?_, orderly.keeps_after effect,
    orderly.debt_after effect, orderly.doomed_after effect⟩
  obtain ⟨drawn?, turns, fresh⟩ := orderly.turns effect
  rcases turns.token found own with new | ⟨entry, foundEntry, -, ownEntry⟩
  · exact (fresh token new).2
  · exact effect.drawn (orderly.tokens.token foundEntry ownEntry)

theorem Orderly.onward (orderly : house.Orderly) (effect : house.Effect after) : after.Orderly :=
  ⟨orderly.exclusive_after effect, orderly.accounts_after effect, orderly.tokens_after effect⟩

/-- Every permitted move keeps a house in order. -/
theorem Orderly.step (orderly : house.Orderly) (permitted : house.Permits move) :
    (house.after move).Orderly :=
  orderly.onward (effect_after orderly.accounts permitted)

theorem orderly_opened {site : Site S α ε} (new : site.IsNew) : (opened site).Orderly := by
  refine ⟨.start new.operations, ⟨fun found => ?_, nofun, nofun, nofun⟩,
    ⟨fun {id entry token} found => ?_, fun keeps => absurd keeps (new.keeps _ _), nofun, ?_⟩⟩
  · rw [new.workers found]
    exact Workers.sound_idle
  · simp [opened, new.operations] at found
  · rintro service call (made | ⟨left, member, -⟩)
    · cases made
    · cases member

theorem Run.orderly {site : Site S α ε} (run : Run (opened site) house) (new : site.IsNew) :
    house.Orderly := by
  induction run with
  | start => exact orderly_opened new
  | move run permitted ih => exact ih.step permitted

/-! ## What a shutdown leaves behind -/

/-- Whether the body of an operation runs under a key, and may go on. -/
def InProgress (house : House S α ε) (id : OperationId) (key : String) : Prop :=
  house.site.Runs id key ∧ id ∉ house.aborted

/-- Whether an operation was handed to the workers of a service. -/
def IsTask (house : House S α ε) (service : ServiceId) (id : OperationId) : Prop :=
  ∃ worker, house.tasks.get? (service, worker) = some id

/-- Whether an operation that no task carries finds its lock given away by a shutdown of
its service. -/
structure IsRobbed (house : House S α ε) (id : OperationId) : Prop where
  alone (service : ServiceId) : ¬ house.IsTask service id
  given : ∃ entry key token, house.site.operations.get? id = some entry ∧
    entry.token? = some token ∧ (entry.service, .revoke key token) ∈ house.swept

/-- Whether a service takes no operation any more. -/
def Refuses (house : House S α ε) (service : ServiceId) : Prop :=
  ∀ plan maxWait, house.site.enter service plan maxWait = .error (.rejected plan.key) ∧
    house.site.submit service plan maxWait = .error (.rejected plan.key)

omit [Lease.Store S] [Lease.Lawful S] in
theorem IsOver.not_inProgress {id : OperationId} (isOver : house.IsOver id) (key : String) :
    ¬ house.InProgress id key := by
  rintro ⟨⟨entry, found, -, token, running⟩, going⟩
  rcases isOver with aborted | ⟨ended, foundEnded, hasEnded⟩
  · exact going aborted
  · cases found.symm.trans foundEnded
    simp [Operation.hasEnded, running] at hasEnded

omit [Lease.Store S] [Lease.Lawful S] in
theorem Accounts.refuses (accounts : house.Accounts) {shutdown : Shutdown}
    (member : shutdown ∈ house.shutdowns) : house.Refuses shutdown.service := by
  obtain ⟨workers, employed, closes⟩ := accounts.shutdown member
  have present := Site.service_of_workers? employed
  intro plan maxWait
  constructor
  · simp [Site.enter, Site.isAccepting, present, closes.closed]
  · simp [Site.submit, present, Workers.spawn?, closes.closed]

theorem Run.givesBack {later : House S α ε} {shutdown : Nat} {service : ServiceId}
    (orderly : house.Orderly) (run : Run house later) (gives : house.GivesBack shutdown service) :
    later.Orderly ∧ later.GivesBack shutdown service := by
  induction run with
  | start => exact ⟨orderly, gives⟩
  | move run permitted ih =>
      obtain ⟨inOrder, given⟩ := ih
      exact ⟨inOrder.step permitted, given.onward (effect_after inOrder.accounts permitted)⟩

theorem Orderly.isRobbed (orderly : house.Orderly) {id : OperationId} {entry : Site.Entry α ε}
    {token : String} (found : house.site.operations.get? id = some entry)
    (holds : entry.holds? = some token) (going : id ∉ house.aborted)
    (lost : house.IsLost token) : house.IsRobbed id := by
  have own := Site.Entry.token?_of_holds? holds
  obtain ⟨service, key, given⟩ := lost
  obtain ⟨_, _, equal, -, owned⟩ := orderly.tokens.doomed (.inl given)
  cases equal
  obtain ⟨rfl, ended⟩ := owned id entry found own
  exact ⟨fun _ ⟨_, task⟩ => going (ended _ task), entry, key, token, found, own, given⟩

/-- Of two bodies in progress under one key, one has been robbed of its lock. -/
theorem Orderly.robbed (orderly : house.Orderly) {key : String} {id other : OperationId}
    (goes : house.InProgress id key) (rivalGoes : house.InProgress other key) :
    id = other ∨ house.IsRobbed id ∨ house.IsRobbed other := by
  obtain ⟨entry, token, found, keyEqual, held⟩ := Site.Exclusive.holds_of_runs goes.1
  obtain ⟨rival, rivalToken, rivalFound, rivalKey, rivalHeld⟩ :=
    Site.Exclusive.holds_of_runs rivalGoes.1
  by_cases gone : house.IsLost token
  · exact .inr (.inl (orderly.isRobbed found held goes.2 gone))
  by_cases rivalGone : house.IsLost rivalToken
  · exact .inr (.inr (orderly.isRobbed rivalFound rivalHeld rivalGoes.2 rivalGone))
  · exact .inl (orderly.exclusive.eq_of_holds found held gone rivalFound rivalHeld rivalGone
      (rivalKey.trans keyEqual.symm))

/-- A shutdown closes its service, and gives locks back only when every operation handed to
the workers has ended, or has been ended for good.  It gives back nothing of other services,
and of two bodies in progress under one key, one is an operation on somebody's own task
whose service was shut down under it.  An end for good takes effect at once here, as
`House.Permits` says; in a runtime it does so when the task next yields, for which a shutdown
does not wait. -/
theorem Run.ended_before_given_back {site : Site S α ε} (run : Run (opened site) house)
    (new : site.IsNew) :
    (∀ shutdown ∈ house.shutdowns, house.Refuses shutdown.service) ∧
    (∀ shutdown service, house.GivesBack shutdown service → ∀ later, Run house later →
      later.Refuses service ∧ ∀ id, later.IsTask service id →
        later.IsOver id ∧ ∀ key, ¬ later.InProgress id key) ∧
    (∀ service key token, house.Dooms service (.revoke key token) →
      ∀ id entry, house.site.operations.get? id = some entry → entry.token? = some token →
        entry.service = service ∧
          ∀ home, house.IsTask home id → ∀ key, ¬ house.InProgress id key) ∧
    ∀ key id other, house.InProgress id key → house.InProgress other key →
      id = other ∨ house.IsRobbed id ∨ house.IsRobbed other := by
  have orderly := run.orderly new
  refine ⟨fun _ member => orderly.accounts.refuses member, ?_, ?_,
    fun _ _ _ goes rivalGoes => orderly.robbed goes rivalGoes⟩
  · intro shutdown service gives later onward
    obtain ⟨inOrder, left, found⟩ := onward.givesBack orderly gives
    refine ⟨inOrder.accounts.refuses (List.mem_of_getElem? found), ?_⟩
    rintro id ⟨worker, task⟩
    have isOver := inOrder.accounts.isOver ⟨left, found⟩ task
    exact ⟨isOver, isOver.not_inProgress⟩
  · intro service key token dooms id entry found own
    obtain ⟨_, _, equal, -, owned⟩ := orderly.tokens.doomed dooms
    cases equal
    obtain ⟨ownService, ended⟩ := owned id entry found own
    refine ⟨ownService, fun home ⟨worker, task⟩ key goes => ?_⟩
    exact goes.2 (ended _ task)

/-- An operation of a service gets its lock, and its body runs. -/
def getting (id : OperationId) (tokens : String × String × String) : List (Move Nat Unit) :=
  [.site (.resume id (.at ⟨0⟩ .zero tokens.1)), .site (.perform id none ⟨1⟩),
    .site (.resume id (.at ⟨2⟩ .zero tokens.2.1)), .site (.perform id none ⟨3⟩),
    .site (.resume id (.at ⟨4⟩ .zero tokens.2.2))]

/-- The first service is shut down while the body of an operation handed to its workers
runs, which is ended; then the second one goes for the same document. -/
def relieved : List (Move Nat Unit) :=
  [.submit 0 (.document ⟨"w", "d"⟩) none, .begin 0] ++ getting 0 ("a", "b", "c") ++
    [.shutDown 0, .look 0, .giveUp 0, .sweep 0 none ⟨5⟩,
      .site (.enter 1 (.document ⟨"w", "d"⟩) none)] ++ getting 1 ("d", "e", "f")

/-- Both bodies stand under the key of the document, but the first will not go on. -/
theorem Run.ended_before_given_back_relieved :
    ((opened Site.pair).afterAll relieved).InProgress 1 "doc:w:d" ∧
      ((opened Site.pair).afterAll relieved).site.Runs 0 "doc:w:d" ∧
      ∀ later, Run ((opened Site.pair).afterAll relieved) later →
        later.Refuses 0 ∧ ∀ id, later.IsTask 0 id →
          later.IsOver id ∧ ∀ key, ¬ later.InProgress id key := by
  have permitted : (opened Site.pair).PermitsAll relieved := by decide +kernel
  have new : Site.pair.IsNew := ((Site.isNew_create _).addService _ _ _ rfl).addService _ _ _ rfl
  have run := Run.start.of_moves permitted
  refine ⟨⟨⟨_, rfl, rfl, _, rfl⟩, by decide +kernel⟩, ⟨_, rfl, rfl, _, rfl⟩, ?_⟩
  exact (run.ended_before_given_back new).2.1 0 0 ⟨_, rfl⟩

/-- The first service is shut down while the body of an operation on somebody's own task
runs; then the second one goes for the same document. -/
def overtaken : List (Move Nat Unit) :=
  [.site (.enter 0 (.document ⟨"w", "d"⟩) none)] ++ getting 0 ("a", "b", "c") ++
    [.shutDown 0, .look 0, .sweep 0 none ⟨5⟩,
      .site (.enter 1 (.document ⟨"w", "d"⟩) none)] ++ getting 1 ("d", "e", "f")

/-- A shutdown does not wait for an operation on somebody's own task: it has returned, and
two bodies are in progress under one key. -/
theorem Run.both_in_progress : ∃ house, Run (opened Site.pair) house ∧
    house.shutdowns = [⟨0, .sweeping []⟩] ∧ house.InProgress 0 "doc:w:d" ∧
      house.InProgress 1 "doc:w:d" := by
  have permitted : (opened Site.pair).PermitsAll overtaken := by decide +kernel
  exact ⟨_, Run.start.of_moves permitted, by decide +kernel, ⟨⟨_, rfl, rfl, _, rfl⟩, by decide +kernel⟩,
    ⟨⟨_, rfl, rfl, _, rfl⟩, by decide +kernel⟩⟩

end House

end Coedit
