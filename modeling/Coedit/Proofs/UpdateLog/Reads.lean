import Coedit.Proofs.Archive.Shelf
import Coedit.Proofs.Hub.Backed
import Coedit.Proofs.UpdateLog.Journal

/-!
# Reads

A peer that asks what it lacks is told the whole log, as it is stored while its section
runs.  All hubs see the commits in one order, so what two peers are told are prefixes of
one another, and nobody misses an update that was acknowledged before he asked.
-/

namespace Coedit.Hubs

open Section (unstored)

/-- The log of a document after some sections: what was stored at first, and then every
update that was committed. -/
def logAfter (initial : Option Snapshot) (events : List Event) : Bytes :=
  (initial.getD unstored).content ++ UpdateLog.encode (updates (commits events))

theorem logAfter_mono {initial : Option Snapshot} {earlier events : List Event}
    (suffix : earlier <:+ events) : logAfter initial earlier <+: logAfter initial events := by
  obtain ⟨later, equal⟩ := commits_mono suffix
  have grown : updates (commits events) = updates (commits earlier) ++ updates later := by
    rw [updates, ← equal, List.filterMap_append]
    rfl
  rw [logAfter, logAfter, grown, UpdateLog.encode_append, ← List.append_assoc]
  exact List.prefix_append ..

/-- A section that tells what a peer lacks tells the log, which is what is stored. -/
theorem History.told {leaves : Option Snapshot → Snapshot → Option Snapshot → Prop}
    {initial stored : Option Snapshot} {events : List Event} {desks : HubId → Desk} {id : JobId}
    {hub : HubId} {document : DocumentId} {vector : Bytes} {handed : Option Bytes}
    (history : History UpdateLog.engine leaves initial
      (⟨id, hub, document, .diff vector, .value handed⟩ :: events) desks stored)
    (tears : Tears False leaves) :
    handed = some (logAfter initial events) ∧
      (stored.getD unstored).content = logAfter initial events := by
  cases history with
  | next history does =>
      have journal := history.journal tears
      cases does with
      | told loads verdict =>
          obtain ⟨-, -, kept, composed⟩ := journal.of_loads loads
          obtain ⟨kept', composed'⟩ := journal.content
          have content := composed.eq_take
          have content' := composed'.eq_take
          rw [List.take_length] at content content'
          refine ⟨?_, content'⟩
          rw [UpdateLog.engine_diff verdict, content]
          rfl

variable {S B Fault Ask : Type} {Answer : Ask → Type} [Lease.Store S] [Lease.Lawful S]
  [Medium B Fault Ask Answer] {archive : Archive Ask Answer} {keeping : archive.Keeping B Fault}
  {first : DocumentId → keeping.Place} {start hubs before : Hubs S B Ask Answer}
  {path late early : List (Hubs S B Ask Answer × Move B Fault)} {move : Move B Fault}
  {document : DocumentId} {initial : Option Snapshot} {event : Event} {id : JobId}

/-- Where on a run a section ended. -/
def EndsAt (path : List (Hubs S B Ask Answer × Move B Fault)) (before : Hubs S B Ask Answer)
    (early : List (Hubs S B Ask Answer × Move B Fault)) (event : Event) : Prop :=
  ∃ late move, path = late ++ (before, move) :: early ∧ before.ending? move = some event

/-- Where on a run a job began. -/
def BeginsAt (path : List (Hubs S B Ask Answer × Move B Fault)) (before : Hubs S B Ask Answer)
    (early : List (Hubs S B Ask Answer × Move B Fault)) (id : JobId) : Prop :=
  ∃ late move, path = late ++ (before, move) :: early ∧ move.begins?.isSome ∧
    before.nextJob = id

/-- Whether a peer that asked was told a payload, and nothing else. -/
def Replied (path : List (Hubs S B Ask Answer × Move B Fault)) (hubs : Hubs S B Ask Answer)
    (document : DocumentId) (id : JobId) (payload : Bytes) : Prop :=
  ∃ hub frame, Brings path id hub document frame ∧ frame.kind = .sync .request ∧
    hubs.result? id = some (.ok [.sync .answer payload])

omit [Lease.Store S] [Lease.Lawful S] [Medium B Fault Ask Answer] in
theorem exists_endsAt (member : event ∈ events path) :
    ∃ before early, EndsAt path before early event := by
  obtain ⟨⟨before, move⟩, within, ends⟩ := List.mem_filterMap.mp member
  obtain ⟨late, early, equal⟩ := List.append_of_mem within
  exact ⟨before, early, late, move, equal, ends⟩

omit [Lease.Store S] [Lease.Lawful S] [Medium B Fault Ask Answer] in
/-- What happened at one of two places of a run happened before the other. -/
theorem suffix_total {left right : Hubs S B Ask Answer × Move B Fault}
    {late' early' : List (Hubs S B Ask Answer × Move B Fault)}
    (equal : path = late ++ left :: early) (equal' : path = late' ++ right :: early') :
    left :: early <:+ right :: early' ∨ right :: early' <:+ left :: early := by
  refine List.suffix_or_suffix_of_suffix ⟨late, equal.symm⟩ ⟨late', equal'.symm⟩

/-- Once a section has ended, what is stored is the outcome of the history up to it. -/
theorem Course.history_at (course : Course keeping start path hubs)
    (starts : start.Starts keeping UpdateLog.engine first)
    (keeps : keeping.Keeps (first document) initial)
    (fitting : Fitting keeping.Fits UpdateLog.engine keeping.Leaves initial
      (eventsOf document path))
    (home : event.document = document) (endsAt : EndsAt path before early event) :
    ∃ desks, History UpdateLog.engine keeping.Leaves initial (event :: eventsOf document early)
      desks (keeping.stored before.medium document) := by
  obtain ⟨late, move, equal, ends⟩ := endsAt
  obtain ⟨earlier, after, permitted, effect⟩ := course.split equal
  obtain ⟨medium, quiet⟩ := quiet_of_ending (earlier.orderly starts) (earlier.exclusive starts)
    effect ends
  rw [home] at quiet
  have suffix : (before, move) :: early <:+ path := equal ▸ List.suffix_append ..
  obtain ⟨places, stored, holds, keepsAfter, history⟩ :=
    (earlier.move permitted effect).history starts UpdateLog.engine_isSteady quiet keeps
      (fitting.of_suffix (eventsOf_suffix suffix))
  rw [eventsOf_same ends home] at history
  rw [← medium, keeping.stored_of_keeps holds keepsAfter]
  exact ⟨_, history⟩

/-- A peer that asked is told the log as it was stored while its section ran. -/
theorem Course.read (course : Course keeping start path hubs)
    (starts : start.Starts keeping UpdateLog.engine first) (whole : keeping.IsWhole)
    (keeps : keeping.Keeps (first document) initial)
    (fitting : Fitting keeping.Fits UpdateLog.engine keeping.Leaves initial
      (eventsOf document path))
    {hub : HubId} {frame : Frame} {replies : List Frame}
    (brings : Brings path id hub document frame) (asks : frame.kind = .sync .request)
    (result : hubs.result? id = some (.ok replies)) :
    ∃ before early payload,
      EndsAt path before early
        ⟨id, hub, document, .diff frame.payload, .value (some payload)⟩ ∧
      replies = [.sync .answer payload] ∧
      payload = logAfter initial (eventsOf document early) ∧
      payload = ((keeping.stored before.medium document).getD unstored).content := by
  have opens : frame.task? = some (.diff frame.payload) := by
    simp only [Frame.task?, asks]
  obtain ⟨handed, member, equal⟩ := (course.traced starts).event_of_replies brings opens result
  obtain ⟨before, early, endsAt⟩ := exists_endsAt member
  obtain ⟨desks, history⟩ := course.history_at starts keeps fitting rfl endsAt
  obtain ⟨rfl, stored⟩ := history.told (tears_of_whole whole)
  refine ⟨before, early, _, endsAt, ?_, rfl, stored.symm⟩
  rw [equal, Frame.replies, asks]
  rfl

omit [Lease.Store S] [Lease.Lawful S] [Medium B Fault Ask Answer] in
theorem ending?_of_begins (begins : move.begins?.isSome) : before.ending? move = none := by
  cases move with
  | step id moment => cases begins
  | _ => rfl

/-- A section ends after the job that opens it has begun. -/
theorem Course.begins_first (course : Course keeping start path hubs)
    (starts : start.Starts keeping UpdateLog.engine first) {begun : Hubs S B Ask Answer}
    {earlier : List (Hubs S B Ask Answer × Move B Fault)}
    (endsAt : EndsAt path before early event) (beginsAt : BeginsAt path begun earlier event.job) :
    ∃ move, (begun, move) :: earlier <:+ early := by
  obtain ⟨late, move, equal, ends⟩ := endsAt
  obtain ⟨late', move', equal', begins, number⟩ := beginsAt
  obtain ⟨before', -⟩ := course.split equal'
  have traced := before'.traced starts
  have apart : (before, move) :: early ≠ (begun, move') :: earlier := by
    intro same
    cases same
    rw [ending?_of_begins begins] at ends
    cases ends
  refine ⟨move', ?_⟩
  rcases suffix_total equal equal' with ended | began
  · rcases List.suffix_cons_iff.mp ended with same | past
    · exact absurd same apart
    · have member : event ∈ events earlier :=
        List.mem_filterMap.mpr ⟨(before, move), past.subset (List.mem_cons_self ..), ends⟩
      have known := traced.known member
      rw [number] at known
      exact absurd known (Nat.lt_irrefl _)
  · rcases List.suffix_cons_iff.mp began with same | past
    · exact absurd same.symm apart
    · exact past

/-- What was acknowledged before a job began is committed before its section ends. -/
theorem Run.acknowledged_before (run : Run keeping start path hubs)
    (starts : start.Starts keeping UpdateLog.engine first) {begun : Hubs S B Ask Answer}
    {earlier : List (Hubs S B Ask Answer × Move B Fault)} {other : JobId} {update : Bytes}
    (endsAt : EndsAt path before early event) (beginsAt : BeginsAt path begun earlier event.job)
    (acknowledged : Acknowledged earlier begun document other update) :
    ∃ commit ∈ commits (eventsOf document early), commit.job = other ∧
      commit.update? = some update := by
  obtain ⟨move, within⟩ := run.course.begins_first starts endsAt beginsAt
  obtain ⟨late', move', equal', -⟩ := beginsAt
  obtain ⟨before', -⟩ := run.course.split equal'
  obtain ⟨commit, member, job, carries⟩ :=
    (before'.traced starts).commit_of_acknowledged acknowledged
  have earlier := (List.suffix_cons ..).trans within
  exact ⟨commit, (commits_mono (eventsOf_suffix earlier)).subset member, job, carries⟩

/-- While no section of a document runs, nothing loaded of it is later than its last commit. -/
theorem Course.version_le (course : Course keeping start path hubs)
    (starts : start.Starts keeping UpdateLog.engine first) (whole : keeping.IsWhole)
    (keeps : keeping.Keeps (first document) initial)
    (fitting : Fitting keeping.Fits UpdateLog.engine keeping.Leaves initial
      (eventsOf document path))
    (quiet : ¬ hubs.IsBusy document) {hub : HubId} {cell : CellId} {loaded : Document}
    (found : hubs.desk hub document = some (cell, loaded)) :
    loaded.version ≤
      (initial.getD unstored).version + (commits (eventsOf document path)).length := by
  obtain ⟨places, stored, -, -, history⟩ :=
    course.history starts UpdateLog.engine_isSteady quiet keeps fitting
  obtain ⟨count, kept, within, version, -⟩ := (history.journal (tears_of_whole whole)).desk found
  rw [version]
  exact Nat.add_le_add_left within _

/-- A section that drops a document asks nothing of the archive. -/
theorem Run.consults (run : Run keeping start path hubs)
    (starts : start.Starts keeping UpdateLog.engine first) {task : Hub.Task} {hub : HubId}
    {question : Ask} {next : Answer question → Section Ask Answer (Option Bytes)}
    (serves : hubs.Serves id document task hub (.ask (.inr question) next)) : task.Consults := by
  obtain ⟨places, kept⟩ := run.course.kept starts UpdateLog.engine_isSteady
  obtain ⟨desks, place, working⟩ := (kept.standing document).working serves
  exact working.safe.1.1

/-- Reads are linearizable, whatever hubs have loaded, as long as sixty-four bits hold the
versions.  A peer that asked and is answered is told one thing, which is the log as it was
stored while its section ran: what was stored at first and all commits before, those included
that were acknowledged before it asked.  What two peers are told are prefixes of one another.
At any time, whatever is loaded has been stored, unless a section is just about to overrun the
versions, and dropping it asks nothing of the archive. -/
theorem Run.reads_linearizable (run : Run keeping start path hubs)
    (starts : start.Starts keeping UpdateLog.engine first) (whole : keeping.IsWhole)
    (wide : keeping.IsWide) (keeps : keeping.Keeps (first document) initial)
    (bound : (initial.getD unstored).version + (commits (eventsOf document path)).length <
      UInt64.size) :
    (∀ id hub frame replies, Brings path id hub document frame → frame.kind = .sync .request →
      hubs.result? id = some (.ok replies) →
      ∃ before early payload,
        EndsAt path before early
          ⟨id, hub, document, .diff frame.payload, .value (some payload)⟩ ∧
        replies = [.sync .answer payload] ∧
        payload = logAfter initial (eventsOf document early) ∧
        payload = ((keeping.stored before.medium document).getD unstored).content ∧
        ∀ begun earlier other update, BeginsAt path begun earlier id →
          Acknowledged earlier begun document other update →
          ∃ commit ∈ commits (eventsOf document early), commit.job = other ∧
            commit.update? = some update) ∧
    (∀ id other payload payload', Replied path hubs document id payload →
      Replied path hubs document other payload' →
      payload <+: payload' ∨ payload' <+: payload) ∧
    (∀ id cell loaded, hubs.desk id document = some (cell, loaded) →
      loaded.dirty = false ∧
        ((hubs.IsBusy document → loaded.version < UInt64.size) →
          Backed keeping path hubs document loaded)) ∧
    (∀ id task hub question next,
      hubs.Serves id document task hub (.ask (.inr question) next) →
      task ≠ .evict ∧ task ≠ .flush) := by
  have fitting := fitting_of_wide whole wide bound
  refine ⟨?_, ?_, ?_, ?_⟩
  · intro id hub frame replies brings asks result
    obtain ⟨before, early, payload, endsAt, equal, log, stored⟩ :=
      run.course.read starts whole keeps fitting brings asks result
    refine ⟨before, early, payload, endsAt, equal, log, stored, ?_⟩
    intro begun earlier other update beginsAt acknowledged
    exact run.acknowledged_before starts endsAt beginsAt acknowledged
  · rintro id other payload payload' ⟨hub, frame, brings, asks, result⟩
      ⟨hub', frame', brings', asks', result'⟩
    obtain ⟨before, early, _, ⟨late, move, equal, -⟩, told, log, -⟩ :=
      run.course.read starts whole keeps fitting brings asks result
    obtain ⟨before', early', _, ⟨late', move', equal', -⟩, told', log', -⟩ :=
      run.course.read starts whole keeps fitting brings' asks' result'
    cases told
    cases told'
    rw [log, log']
    have left : early <:+ path := ⟨late ++ [(before, move)], by rw [equal]; simp⟩
    have right : early' <:+ path := ⟨late' ++ [(before', move')], by rw [equal']; simp⟩
    rcases List.suffix_or_suffix_of_suffix left right with first | second
    · exact .inl (logAfter_mono (eventsOf_suffix first))
    · exact .inr (logAfter_mono (eventsOf_suffix second))
  · intro id cell loaded found
    obtain ⟨clean, backed⟩ :=
      run.covered starts UpdateLog.engine_isSteady keeps fitting id cell loaded found
    refine ⟨clean, fun below => backed (wide _ ?_)⟩
    by_cases busy : hubs.IsBusy document
    · exact below busy
    · exact Nat.lt_of_le_of_lt (run.course.version_le starts whole keeps fitting busy found) bound
  · intro id task hub question next serves
    have consults := run.consults starts serves
    constructor
    · rintro rfl
      exact consults
    · rintro rfl
      exact consults

/-! ## A conversation -/

open Archive (Shelf)

/-- Two hubs that share a memory of leases and a shelf. -/
def shelved : Hubs Lease.Memory Shelf Shelf.Call Shelf.Call.Answer :=
  let site := ((Site.create .empty).addService 0 ⟨.standard, .empty⟩ .standard).addService 1
    ⟨.standard, .empty⟩ .standard
  ((create site Shelf.archive .empty).addHub 0 0 UpdateLog.engine).addHub 1 1 UpdateLog.engine

/-- A session of the first hub sends an update. -/
def sending : List (Move Shelf ArchiveError) :=
  .frame 0 ⟨"w", "d"⟩ 0 [0, 2, 7] :: enters 0 "first" ++
    [goesOn 0, .consult 0 none, goesOn 0, goesOn 0, .consult 0 none, goesOn 0] ++ givesBack 0 ++
    [goesOn 0]

/-- Then a session of the second asks. -/
def conversation : List (Move Shelf ArchiveError) :=
  sending ++ .frame 1 ⟨"w", "d"⟩ 0 [0, 0] :: enters 1 "second" ++
    [goesOn 1, .consult 1 none, goesOn 1, goesOn 1] ++ givesBack 1

instance (question : Shelf.Call) (fault : ArchiveError) :
    Decidable (Shelf.keeping.Happens question fault) := .isTrue trivial

instance (shelf after : Shelf) : Decidable (Shelf.keeping.Drifts shelf after) :=
  inferInstanceAs (Decidable (after = shelf))

/-- The peer that asks is told the update, which is what is stored while its section
runs. -/
theorem Run.reads_linearizable_conversation :
    (shelved.afterAll conversation).result? 1 =
        some (.ok [.sync .answer [1, 0, 0, 0, 7]]) ∧
      ∃ before early,
        EndsAt (shelved.trail conversation []) before early
          ⟨1, 1, ⟨"w", "d"⟩, .diff [], .value (some [1, 0, 0, 0, 7])⟩ ∧
        ((Shelf.keeping.stored before.medium ⟨"w", "d"⟩).getD unstored).content =
          [1, 0, 0, 0, 7] := by
  have permitted : shelved.PermitsAll Shelf.keeping conversation := by decide +kernel
  have result : (shelved.afterAll conversation).result? 1 =
      some (.ok [.sync .answer [1, 0, 0, 0, 7]]) := by with_unfolding_all rfl
  have starts : shelved.Starts Shelf.keeping UpdateLog.engine fun _ => none := by
    refine ⟨rfl, rfl, rfl, rfl, ?_, fun _ => rfl⟩
    intro id hub found
    simp only [shelved, addHub, Table.get?_insert] at found
    split at found
    · cases found
      exact ⟨rfl, rfl⟩
    · split at found
      · cases found
        exact ⟨rfl, rfl⟩
      · cases found
  have run := Run.start.of_moves permitted
  have brings : Brings (shelved.trail conversation []) 1 1 ⟨"w", "d"⟩ ⟨.sync .request, []⟩ :=
    ⟨shelved.afterAll sending, 0, [0, 0], mem_trail, by decide +kernel, rfl⟩
  have count : (commits (eventsOf ⟨"w", "d"⟩ (shelved.trail conversation []))).length = 1 := by
    decide +kernel
  have bound : ((none : Option Snapshot).getD unstored).version +
      (commits (eventsOf ⟨"w", "d"⟩ (shelved.trail conversation []))).length < UInt64.size := by
    rw [count]
    decide
  obtain ⟨before, early, payload, endsAt, replies, -, stored, -⟩ :=
    (run.reads_linearizable starts Shelf.keeping_isWhole Shelf.keeping_isWide rfl bound).1 1 1 _ _
      brings rfl result
  cases replies
  exact ⟨result, before, early, endsAt, stored.symm⟩

end Coedit.Hubs
