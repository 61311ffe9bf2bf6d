import Coedit.Proofs.Archive.Shelf
import Coedit.Proofs.Hub.Setbacks
import Coedit.Proofs.UpdateLog.Reads

/-!
# Frames that fail leave no trace

Whatever goes wrong with a frame, be it that it cannot be read, that its section is turned
down or does not get its lock, that the log is corrupt, or that the archive fails: whoever
sent it is told the error itself, and nothing has changed for anybody.
-/

namespace Coedit

/-- Every reason has a code of its own. -/
theorem Operation.Reason.code_injective : Function.Injective Operation.Reason.code := by
  intro left right
  cases left <;> cases right <;> decide

namespace Operation.Failure

/-- The failure of an operation that has no errors of its own, as one of an operation that
may have some. -/
def widen {ε : Type} : Failure Empty → Failure ε
  | .lockTimeout resource waited => .lockTimeout resource waited
  | .failed resource (.panic message) => .failed resource (.panic message)
  | .unavailable resource source => .unavailable resource source
  | .cancelled resource => .cancelled resource
  | .rejected resource => .rejected resource

end Operation.Failure

namespace Hubs

variable {S B Fault Ask : Type} {Answer : Ask → Type}

/-- The error that a session is told when its section has failed: the error with which the
body ended, or else the failure of the operation as it is. -/
inductive Reported (id : JobId) (home : HubId) (document : DocumentId)
    (path : List (Hubs S B Ask Answer × Move B Fault)) :
    Operation.Failure Section.Error → HubError Empty → Prop where
  | merge {resource : String} {task : Hub.Task} {error : MergeError}
      (ended : ⟨id, home, document, task, .error (.merge error)⟩ ∈ events path) :
      Reported id home document path (.failed resource (.error (.merge error))) (.merge error)
  | archive {resource : String} {task : Hub.Task} {error : ArchiveError}
      (ended : ⟨id, home, document, task, .error (.archive error)⟩ ∈ events path) :
      Reported id home document path (.failed resource (.error (.archive error))) (.archive error)
  | operation {failure : Operation.Failure Empty}
      (unrun : ∀ resource cause, failure ≠ .failed resource cause) :
      Reported id home document path failure.widen (.operation failure)

variable {id : JobId} {home : HubId} {document : DocumentId} {session : SessionId} {bytes : Bytes}
  {path : List (Hubs S B Ask Answer × Move B Fault)}

/-- A session is told why its section has failed. -/
theorem reported_ofFailure {failure : Operation.Failure Section.Error}
    (told : ∀ resource cause, failure = .failed resource cause → ∃ task error,
      cause = .error error ∧ ⟨id, home, document, task, .error error⟩ ∈ events path) :
    Reported id home document path failure (.ofFailure failure) := by
  have plain (failure : Operation.Failure Empty)
      (unrun : ∀ resource cause, failure ≠ .failed resource cause) :
      Reported id home document path failure.widen (.operation failure) :=
    .operation unrun
  cases failure with
  | failed resource cause =>
      obtain ⟨task, error, rfl, ended⟩ := told resource cause rfl
      cases error with
      | merge error => exact .merge ended
      | archive error => exact .archive ended
  | lockTimeout resource waited => exact plain (.lockTimeout resource waited) nofun
  | unavailable resource source => exact plain (.unavailable resource source) nofun
  | cancelled resource => exact plain (.cancelled resource) nofun
  | rejected resource => exact plain (.rejected resource) nofun

/-- Nobody is told that an operation has failed instead of the reason why. -/
theorem Reported.code {failure : Operation.Failure Section.Error} {error : HubError Empty}
    (reported : Reported id home document path failure error) :
    error.code ≠ Operation.Reason.operationFailed.code := by
  cases reported with
  | merge ended =>
      change "MERGE_FAILED" ≠ "OPERATION_FAILED"
      decide
  | archive ended =>
      change "PERSISTENCE_FAILED" ≠ "OPERATION_FAILED"
      decide
  | @operation failure unrun =>
      have other : failure.reason ≠ .operationFailed := by
        cases failure with
        | failed resource cause => exact absurd rfl (unrun resource cause)
        | _ => nofun
      exact Operation.Reason.code_injective.ne other

/-! ## What a failed frame leaves -/

variable [Lease.Store S] [Lease.Lawful S] [Medium B Fault Ask Answer]
  {archive : Archive Ask Answer} {keeping : archive.Keeping B Fault} {own : String → Prop}
  {start hubs : Hubs S B Ask Answer} {now : Instant}

/-- A frame that fails leaves no trace, whatever goes wrong with it, and whatever others do
meanwhile.  None of its moves touches a session, or any document but its own, which is at
most taken into memory as it is stored; when the body of its section has stopped, what had
been stored when it began is stored again.  If every attempt to give a lock back was
answered, nothing is left of its tokens.  The error is that of the frame if it cannot be
read, and otherwise the one with which its section failed, which is told as it is. -/
theorem Errand.traceless
    (errand : Errand keeping UpdateLog.engine own id home document session bytes start now path
      hubs) (whole : keeping.IsWhole) {error : HubError Empty}
    (failed : hubs.result? id = some (.error error)) :
    (∀ before move, (before, move) ∈ path →
      Harmless keeping id home document before (before.after move)) ∧
    (∀ late early before move, path = late ++ (before, move) :: early → before.Runs id →
      ¬ (before.after move).Runs id →
      Entered keeping id document early (keeping.stored (before.after move).medium document)) ∧
    ¬ hubs.Runs id ∧
    (Lock.Lockers.Returns (calls path) → ∀ token, own token → start.site.lockers.Free token →
      (∀ service, ¬ hubs.site.lockers.Keeps service token) ∧
        ∀ key lease, Lease.Lawful.lease? hubs.site.lockers.store key = some lease →
          lease.token = token → lease.hasEnded now = true) ∧
    (∀ cause, error = .malformed cause ↔ Frame.decode bytes = .error cause) ∧
    (∀ frame, Frame.decode bytes = .ok frame → ∃ failure,
      (∃ before move, (before, move) ∈ path ∧ before.Denies id home document failure) ∧
        Reported id home document path failure error ∧
        error.code ≠ Operation.Reason.operationFailed.code) := by
  obtain ⟨-, job, found, progress⟩ := errand.progress UpdateLog.engine_isSteady whole
  have rest := rest_of_result? failed found
  cases progress with
  | free read succeeds =>
      cases rest
      obtain ⟨frames, ok⟩ := succeeds
      cases ok
  | malformed unread calm settled =>
      cases rest
      refine ⟨fun _ _ => calm.harmless, fun _ _ _ _ => calm.restored,
        not_runs_of_closed found rfl, settled, fun cause => ?_, fun frame read => ?_⟩
      · simp [unread]
      · cases unread.symm.trans read
  | asks => cases rest
  | inside => cases rest
  | @failed frame failure read calm settled denied told =>
      cases rest
      have reported := reported_ofFailure told
      refine ⟨fun _ _ => calm.harmless, fun _ _ _ _ => calm.restored,
        not_runs_of_closed found rfl, settled, fun cause => ?_, fun frame' read' => ?_⟩
      · rw [read]
        constructor
        · intro malformed
          rw [malformed] at reported
          cases reported
        · nofun
      · exact ⟨failure, denied, reported, reported.code⟩

/-! ## A full disk -/

open Archive (Shelf)

/-- A session of the second hub sends an update, and its hub looks at what is stored. -/
def looking : List (Move Shelf ArchiveError) :=
  enters 1 "second" ++ [goesOn 1, .consult 1 none, goesOn 1, goesOn 1]

/-- The archive has no room for it. -/
def filling : List (Move Shelf ArchiveError) :=
  .consult 1 (some (.io "disk full")) :: givesBack 1

/-- The hubs to which that update comes. -/
def visited : Hubs Lease.Memory Shelf Shelf.Call Shelf.Call.Answer :=
  (shelved.afterAll sending).after (.frame 1 ⟨"w", "d"⟩ 0 [0, 2, 9] : Move Shelf ArchiveError)

/-- The same hubs when it is to be saved and somebody has joined at the first. -/
def crowded : Hubs Lease.Memory Shelf Shelf.Call Shelf.Call.Answer :=
  (visited.afterAll looking).after (.join 0 ⟨"w", "d"⟩ : Move Shelf ArchiveError)

/-- Something can always be said of what is on a shelf. -/
theorem readable_shelf (document : DocumentId) (shelf : Shelf) :
    Readable Shelf.keeping document shelf :=
  ⟨shelf.get?, _, fun _ => rfl, rfl⟩

theorem reliable_sending :
    (shelved.afterAll sending).Reliable Shelf.archive UpdateLog.engine 1 := by
  refine ⟨by with_unfolding_all rfl, fun found => ?_⟩
  have core : (shelved.afterAll sending).core 1 = some (1, UpdateLog.engine, .empty) := by
    with_unfolding_all rfl
  cases core.symm.trans found
  exact ⟨rfl, Cache.sound_empty⟩

/-- All locks have been given back by then. -/
theorem free_sending (token : String) : (shelved.afterAll sending).site.lockers.Free token := by
  have returned : (shelved.afterAll sending).site.lockers = shelved.site.lockers := by
    with_unfolding_all rfl
  rw [returned]
  constructor
  · intro key lease found
    cases found
  · rintro service ⟨locker, key, found, held⟩
    have member : (service, locker) ∈
        [(0, (⟨.standard, .empty⟩ : Lock.Locker)), (1, ⟨.standard, .empty⟩)] :=
      Table.get?_eq_some_iff.mp found
    rcases List.mem_cons.mp member with equal | other
    · cases equal
      cases held
    · cases List.mem_singleton.mp other
      cases held

/-- The update is on its way. -/
theorem errand_looking : Errand Shelf.keeping UpdateLog.engine (· = "second") 1 1 ⟨"w", "d"⟩ 0
    [0, 2, 9] (shelved.afterAll sending) ⟨0⟩ (visited.trail looking [])
    (visited.afterAll looking) :=
  .of_moves (.begun (by decide +kernel) reliable_sending (readable_shelf _ _)) (by decide)
    (by decide) (by decide +kernel)

/-- The update has failed. -/
theorem errand_filling : Errand Shelf.keeping UpdateLog.engine (· = "second") 1 1 ⟨"w", "d"⟩ 0
    [0, 2, 9] (shelved.afterAll sending) ⟨0⟩ (crowded.trail filling (visited.trail looking []))
    (crowded.afterAll filling) := by
  obtain ⟨reliable, -⟩ :=
    errand_looking.progress UpdateLog.engine_isSteady Shelf.keeping_isWhole
  have spares : Spares Shelf.keeping UpdateLog.engine (· = "second") 1 1 ⟨"w", "d"⟩
      (visited.afterAll looking) crowded :=
    spares_of_jobless _ rfl trivial (by decide +kernel) reliable (readable_shelf _ _)
  exact (errand_looking.others spares).of_moves (by decide) (by decide) (by decide +kernel)

set_option maxRecDepth 2000 in
/-- Whoever sent the update is told that there is no room for it.  The log is as it was, and
nothing is left of the lock. -/
theorem Errand.traceless_full_disk :
    (crowded.afterAll filling).result? 1 = some (.error (.archive (.io "disk full"))) ∧
      (crowded.afterAll filling).medium.get? ⟨"w", "d"⟩ = some ⟨[1, 0, 0, 0, 7], 1⟩ ∧
      (∀ service, ¬ (crowded.afterAll filling).site.lockers.Keeps service "second") ∧
      ∀ before move, (before, move) ∈ crowded.trail filling (visited.trail looking []) →
        ∀ hub, (before.after move).roster? hub = before.roster? hub := by
  have failed : (crowded.afterAll filling).result? 1 =
      some (.error (.archive (.io "disk full"))) := by with_unfolding_all rfl
  have log : calls (crowded.trail filling (visited.trail looking [])) =
      [(.revoke "doc:w:d" "second", .ok true), (.check "workspace:w", .ok false),
        (.claim "doc:w:d" "second" Lock.Settings.standard.ttl, .ok true)] := by
    with_unfolding_all rfl
  have returns :
      Lock.Lockers.Returns (calls (crowded.trail filling (visited.trail looking []))) := by
    rw [log]
    intro key token error member
    simp at member
  obtain ⟨harmless, -, -, settled, -⟩ :=
    errand_filling.traceless Shelf.keeping_isWhole failed
  refine ⟨failed, by with_unfolding_all rfl, (settled returns _ rfl (free_sending _)).1, ?_⟩
  exact fun before move member => (harmless before move member).rosters

end Hubs

end Coedit
