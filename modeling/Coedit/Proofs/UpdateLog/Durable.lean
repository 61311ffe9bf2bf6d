import Coedit.Proofs.Archive.Files
import Coedit.Proofs.UpdateLog.Journal

/-!
# No update is lost

Hubs that share a directory never lose an update that they have acknowledged, however
their sections follow one another and whichever operations on files fail.  A save that
stops half-way may leave an update in the log that nobody was told of; the version does
not count it.
-/

namespace Coedit.Hubs

open Archive (Files.keeping Files.Stores Files.versionBound)
open Section (unstored)

variable {S : Type} [Lease.Store S] [Lease.Lawful S] {base : Path}
  {first : DocumentId → (Files.keeping base).Place}
  {start hubs : Hubs S Host FileCall FileCall.Answer}
  {path : List (Hubs S Host FileCall FileCall.Answer × Move Host FileError)}
  {document : DocumentId} {initial stored : Option Snapshot} {found : List Bytes}
  {kept : List Event}

/-- What is stored of a document has all commits in it, and nothing that was not sent:
`kept` are the sections whose updates it holds after what was stored at first. -/
structure Durable (path : List (Hubs S Host FileCall FileCall.Answer × Move Host FileError))
    (hubs : Hubs S Host FileCall FileCall.Answer) (document : DocumentId)
    (initial : Option Snapshot) (found : List Bytes) (stored : Option Snapshot)
    (kept : List Event) : Prop where
  log : UpdateLog.records (stored.getD unstored).content = .ok (found ++ updates kept)
  version : (stored.getD unstored).version =
    (initial.getD unstored).version + (commits (eventsOf document path)).length
  ordered : kept.Sublist (eventsOf document path).reverse
  complete : (commits (eventsOf document path)).Sublist kept
  /-- No two of them are for one frame. -/
  once : (kept.map Event.job).Nodup
  sent (event : Event) (member : event ∈ kept) :
    ∃ frame update, Brings path event.job event.hub document frame ∧
      frame.task? = some (.merge update) ∧ event.update? = some update
  /-- Whoever sent one that is no commit is told that it could not be stored. -/
  others (event : Event) (member : event ∈ kept) (idle : event.committed = false) :
    event.failed = true ∧ ∀ outcome, hubs.result? event.job = some outcome →
      ∃ error, outcome = .error (.archive error)
  /-- Whoever sent a commit is told that it was merged. -/
  succeeded (event : Event) (member : event ∈ commits (eventsOf document path)) :
    ∀ outcome, hubs.result? event.job = some outcome → ∃ replies, outcome = .ok replies
  acknowledged (id : JobId) (update : Bytes) (told : Acknowledged path hubs document id update) :
    ∃ event ∈ commits (eventsOf document path), event.job = id ∧ event.update? = some update

theorem tears_leaves : Tears True Archive.Files.Leaves := by
  intro before saved after leaves
  cases leaves with
  | inl same => exact .inl same
  | inr torn =>
      refine .inr ⟨trivial, torn.trans ?_⟩
      cases before <;> rfl

/-- What is told of a section that could not store its update. -/
theorem archive_of_reports {event : Event} {frame : Frame} {outcome : Hub.Outcome}
    (failed : event.failed = true) (reports : Reports frame (some event.ending) outcome) :
    ∃ error, outcome = .error (.archive error) := by
  obtain ⟨id, hub, document, task, ending⟩ := event
  unfold Event.failed at failed
  split at failed
  · next error ends =>
      rw [ends] at reports
      exact ⟨error, reports⟩
  · cases failed

/-- What is told of a section that has committed its update. -/
theorem ok_of_reports {event : Event} {frame : Frame} {outcome : Hub.Outcome}
    (committed : event.committed = true) (reports : Reports frame (some event.ending) outcome) :
    ∃ replies, outcome = .ok replies := by
  unfold Event.committed at committed
  split at committed
  · next handed ends =>
      rw [ends] at reports
      exact ⟨_, reports⟩
  · cases committed

/-- Acknowledged updates are not lost.  Whenever no section of a document runs, what is
stored of it is a log that begins with what was stored at first and holds every update
that was committed, in the order of their sections and once for each frame.  Any other
update in it is that of a frame whose save failed, and the version counts the commits,
as long as it can be stored. -/
theorem Run.no_update_lost (run : Run (Files.keeping base) start path hubs)
    (starts : start.Starts (Files.keeping base) UpdateLog.engine first)
    (quiet : ¬ hubs.IsBusy document)
    (stores : Files.Stores base start.medium document initial)
    (wellFormed : UpdateLog.records (initial.getD unstored).content = .ok found)
    (bound : (initial.getD unstored).version + (commits (eventsOf document path)).length <
      Files.versionBound) :
    ∃ stored kept, Files.Stores base hubs.medium document stored ∧
      Durable path hubs document initial found stored kept := by
  have keeps : (first document).Keeps initial :=
    stores.of_agrees (starts.holds.agrees document).symm
  have fitting : Fitting (Files.keeping base).Fits UpdateLog.engine (Files.keeping base).Leaves
      initial (eventsOf document path) :=
    fitting_of_bound tears_leaves fun version below => Nat.lt_of_le_of_lt below bound
  obtain ⟨places, stored, holds, keepsAfter, history⟩ :=
    run.history starts UpdateLog.engine_isSteady quiet keeps fitting
  have journal := history.journal tears_leaves
  obtain ⟨kept, composed⟩ := journal.content
  have traced := run.traced starts
  have carry (event : Event) (member : event ∈ kept) : ∃ update, event.update? = some update := by
    rcases composed.others event member with committed | ⟨-, failed⟩
    · exact update?_of_committed committed
    · exact update?_of_failed failed
  have ended (event : Event) (member : event ∈ kept) :
      event ∈ events path ∧ event.document = document :=
    mem_eventsOf.mp (List.mem_reverse.mp (composed.ordered.subset member))
  refine ⟨stored, kept, keepsAfter.of_agrees (holds.agrees document), ?_⟩
  constructor
  case log => exact composed.records wellFormed
  case version => exact journal.version
  case ordered => exact composed.ordered
  case complete =>
    have complete := composed.complete
    rw [List.take_length] at complete
    rw [← complete]
    exact List.filter_sublist
  case once => exact traced.nodup_jobs composed.ordered carry
  case sent =>
    intro event member
    obtain ⟨update, carries⟩ := carry event member
    obtain ⟨happened, home⟩ := ended event member
    obtain ⟨frame, brings, opens, -⟩ := traced.frame_of_update happened carries
    rw [home] at brings
    exact ⟨frame, update, brings, opens, carries⟩
  case others =>
    intro event member idle
    obtain ⟨update, carries⟩ := carry event member
    obtain ⟨happened, home⟩ := ended event member
    obtain ⟨frame, -, -, -, reports⟩ := traced.frame_of_update happened carries
    rcases composed.others event member with committed | ⟨-, failed⟩
    · rw [idle] at committed
      cases committed
    · exact ⟨failed, fun outcome result => archive_of_reports failed (reports outcome result)⟩
  case succeeded =>
    intro event member outcome result
    obtain ⟨happened, committed⟩ := mem_commits.mp member
    obtain ⟨update, carries⟩ := update?_of_committed committed
    obtain ⟨frame, -, -, -, reports⟩ :=
      traced.frame_of_update (mem_eventsOf.mp happened).1 carries
    exact ok_of_reports committed (reports outcome result)
  case acknowledged =>
    intro id update told
    exact traced.commit_of_acknowledged told

/-! ## A save that stops half-way -/

open Archive (Files.archive Files.Happens Files.spot Files.holds_spot Files.isSupply_toString)

/-- Two hubs that share a memory of leases and a directory. -/
def hosted : Hubs Lease.Memory Host FileCall FileCall.Answer :=
  let site := ((Site.create .empty).addService 0 ⟨.standard, .empty⟩ .standard).addService 1
    ⟨.standard, .empty⟩ .standard
  let host : Host := ⟨.empty, ⟨0⟩, fun number => toString number, 0⟩
  ((create site (Files.archive ["data"]) host).addHub 0 0 UpdateLog.engine).addHub 1 1
    UpdateLog.engine

/-- A session of the first hub sends an update, whose version cannot be written. -/
def tearing : List (Move Host FileError) :=
  .frame 0 ⟨"w", "d"⟩ 0 [0, 2, 7] :: enters 0 "first" ++
    [goesOn 0, .consult 0 none, goesOn 0, goesOn 0] ++ List.replicate 6 (.consult 0 none) ++
    [.consult 0 (some .broken)] ++ givesBack 0

/-- Then a session of the second sends another. -/
def mending : List (Move Host FileError) :=
  tearing ++ .frame 1 ⟨"w", "d"⟩ 0 [0, 2, 9] :: enters 1 "second" ++
    [goesOn 1, .consult 1 none, .consult 1 none, goesOn 1, goesOn 1] ++
    List.replicate 8 (.consult 1 none) ++ [goesOn 1] ++ givesBack 1 ++ [goesOn 1]

instance (base : Path) (question : FileCall) (fault : FileError) :
    Decidable ((Files.keeping base).Happens question fault) :=
  inferInstanceAs (Decidable (Files.Happens question fault))

noncomputable instance (base : Path) (host after : Host) :
    Decidable ((Files.keeping base).Drifts host after) :=
  Classical.propDecidable _

/-- The update whose save failed stays in the log, before the one that is acknowledged,
which is the first that the version counts. -/
theorem Run.no_update_lost_mending :
    (hosted.afterAll mending).result? 0 = some (.error (.archive
        (.io "write data/w/d.meta.tmp.1: Input/output error (os error 5)"))) ∧
      (hosted.afterAll mending).result? 1 = some (.ok []) ∧
      ∃ kept, Files.Stores ["data"] (hosted.afterAll mending).medium ⟨"w", "d"⟩
          (some ⟨[1, 0, 0, 0, 7, 1, 0, 0, 0, 9], 1⟩) ∧
        Durable (hosted.trail mending []) (hosted.afterAll mending) ⟨"w", "d"⟩ none []
          (some ⟨[1, 0, 0, 0, 7, 1, 0, 0, 0, 9], 1⟩) kept := by
  have permitted : hosted.PermitsAll (Files.keeping ["data"]) mending := by decide +kernel
  have unopened : ((hosted.afterAll mending).jobs.values.all fun job => job.opened.isNone) := by
    decide +kernel
  have count : (commits (eventsOf ⟨"w", "d"⟩ (hosted.trail mending []))).length = 1 := by
    decide +kernel
  have file : (Files.spot ["data"] (hosted.afterAll mending).medium ⟨"w", "d"⟩).content =
      some (.file [1, 0, 0, 0, 7, 1, 0, 0, 0, 9]) := by
    decide +kernel
  have starts : hosted.Starts (Files.keeping ["data"]) UpdateLog.engine
      (Files.spot ["data"] hosted.medium) := by
    refine ⟨rfl, rfl, rfl, rfl, ?_,
      Files.holds_spot Disk.isTree_empty Files.isSupply_toString (by decide)⟩
    intro id hub found
    simp only [hosted, addHub, Table.get?_insert] at found
    split at found
    · cases found
      exact ⟨rfl, rfl⟩
    · split at found
      · cases found
        exact ⟨rfl, rfl⟩
      · cases found
  have stores : Files.Stores ["data"] hosted.medium ⟨"w", "d"⟩ none := ⟨rfl, rfl⟩
  have wellFormed : UpdateLog.records (none.getD unstored).content = .ok [] := by cbv
  have run := Run.start.of_moves permitted
  obtain ⟨stored, kept, storesAfter, durable⟩ :=
    run.no_update_lost starts (not_isBusy_of_unopened unopened) stores wellFormed (by
      rw [count]
      decide)
  have version := durable.version
  rw [count] at version
  cases stored with
  | none =>
      rw [storesAfter.1] at file
      cases file
  | some snapshot =>
      obtain ⟨content, number⟩ := snapshot
      have kept_content := storesAfter.1
      rw [file] at kept_content
      cases kept_content
      cases version
      exact ⟨by decide +kernel, by decide +kernel, kept, storesAfter, durable⟩

end Coedit.Hubs
