import Coedit.Proofs.Hub.Frames

/-!
# Commits

A section commits when it has merged an update and stored the outcome.  Every commit
comes from a frame of its own, and an update is acknowledged only when it is committed.
-/

namespace Coedit.Hubs

/-! ## Commits -/

namespace Event

/-- The update that a section was to merge, unless it was empty. -/
def update? (event : Event) : Option Bytes :=
  match event.task with
  | .merge [] => none
  | .merge update => some update
  | _ => none

/-- Whether a section has merged an update and stored the outcome. -/
def committed (event : Event) : Bool :=
  match event.ending with
  | .value _ => event.update?.isSome
  | _ => false

/-- Whether a section could not store what it had merged. -/
def failed (event : Event) : Bool :=
  match event.ending with
  | .error (.archive _) => event.update?.isSome
  | _ => false

end Event

/-- The sections that have committed an update, in their order. -/
def commits (events : List Event) : List Event := (events.filter Event.committed).reverse

/-- The updates of some sections. -/
def updates (events : List Event) : List Bytes := events.filterMap Event.update?

section

variable {event : Event} {events earlier : List Event} {count : Nat}

theorem commits_of_committed (committed : event.committed = true) :
    commits (event :: events) = commits events ++ [event] := by
  rw [commits, List.filter_cons_of_pos committed, List.reverse_cons]
  rfl

theorem commits_of_not_committed (idle : event.committed = false) :
    commits (event :: events) = commits events := by
  rw [commits, List.filter_cons_of_neg (by simp [idle])]
  rfl

/-- Commits are never undone. -/
theorem commits_mono (suffix : earlier <:+ events) : commits earlier <+: commits events := by
  obtain ⟨later, rfl⟩ := suffix
  rw [commits, commits, List.filter_append, List.reverse_append]
  exact List.prefix_append ..

theorem length_commits_cons (event : Event) (events : List Event) :
    (commits (event :: events)).length ≤ (commits events).length + 1 := by
  cases committed : event.committed with
  | true =>
      rw [commits_of_committed committed, List.length_append]
      exact Nat.le_refl _
  | false =>
      rw [commits_of_not_committed committed]
      exact Nat.le_succ _

theorem take_commits (bound : count ≤ (commits events).length) :
    (commits (event :: events)).take count = (commits events).take count := by
  obtain ⟨later, equal⟩ := commits_mono (List.suffix_cons event events)
  rw [← equal, List.take_append_of_le_length bound]

end

/-! ## Frames -/

section

variable {S B Fault Ask : Type} {Answer : Ask → Type}
  {path : List (Hubs S B Ask Answer × Move B Fault)} {hubs : Hubs S B Ask Answer} {id : JobId}
  {hub : HubId} {document : DocumentId} {frame : Frame} {task : Hub.Task} {update vector : Bytes}
  {event : Event} {replies : List Frame}

/-- Whether an update that a frame has brought is reported as merged. -/
def Acknowledged (path : List (Hubs S B Ask Answer × Move B Fault)) (hubs : Hubs S B Ask Answer)
    (document : DocumentId) (id : JobId) (update : Bytes) : Prop :=
  ∃ hub frame, Brings path id hub document frame ∧ frame.task? = some (.merge update) ∧
    update ≠ [] ∧ ∃ replies, hubs.result? id = some (.ok replies)

theorem mem_eventsBy : event ∈ eventsBy id path ↔ event ∈ events path ∧ event.job = id := by
  simp [eventsBy]

theorem mem_eventsOf :
    event ∈ eventsOf document path ↔ event ∈ events path ∧ event.document = document := by
  simp [eventsOf]

theorem mem_commits {events : List Event} :
    event ∈ commits events ↔ event ∈ events ∧ event.committed = true := by
  simp [commits]

/-- No more sections commit on a path than it has moves. -/
theorem length_commits_le (document : DocumentId)
    (path : List (Hubs S B Ask Answer × Move B Fault)) :
    (commits (eventsOf document path)).length ≤ path.length := by
  rw [commits, List.length_reverse]
  exact Nat.le_trans (List.length_filter_le ..)
    (Nat.le_trans (List.length_filter_le ..) (List.length_filterMap_le ..))

theorem update?_eq_some :
    event.update? = some update ↔ event.task = .merge update ∧ update ≠ [] := by
  unfold Event.update?
  split
  · next merges => simp [merges]
  · next other full merges =>
      rw [merges]
      constructor
      · rintro ⟨⟩
        exact ⟨rfl, full⟩
      · rintro ⟨equal, -⟩
        cases equal
        rfl
  · next neither =>
      constructor
      · rintro ⟨⟩
      · rintro ⟨merges, -⟩
        exact absurd merges (neither update)

theorem update?_of_committed (committed : event.committed = true) :
    ∃ update, event.update? = some update := by
  unfold Event.committed at committed
  split at committed
  · exact Option.isSome_iff_exists.mp committed
  · cases committed

theorem update?_of_failed (failed : event.failed = true) :
    ∃ update, event.update? = some update := by
  unfold Event.failed at failed
  split at failed
  · exact Option.isSome_iff_exists.mp failed
  · cases failed

namespace Traced

variable (traced : Traced path hubs)

include traced

/-- A frame for which frames come back has had its section end with a value. -/
theorem event_of_replies (brings : Brings path id hub document frame)
    (opens : frame.task? = some task) (result : hubs.result? id = some (.ok replies)) :
    ∃ handed, ⟨id, hub, document, task, .value handed⟩ ∈ events path ∧
      replies = frame.replies handed := by
  obtain ⟨told, settles, reports⟩ := traced.of_frame brings opens
  have report := reports _ result
  rcases told with _ | handed | (merge | archive) | message
  · obtain ⟨failure, equal⟩ := report
    cases equal
  · refine ⟨handed, ?_, Except.ok.inj report⟩
    have member : ⟨id, hub, document, task, .value handed⟩ ∈ eventsBy id path := by
      rw [settles]
      exact mem_recorded.mpr ⟨_, rfl, rfl⟩
    exact (mem_eventsBy.mp member).1
  · cases report
  · cases report
  · obtain ⟨failure, equal⟩ := report
    cases equal

/-- An acknowledged update has been committed. -/
theorem commit_of_acknowledged (acknowledged : Acknowledged path hubs document id update) :
    ∃ event ∈ commits (eventsOf document path), event.job = id ∧
      event.update? = some update := by
  obtain ⟨hub, frame, brings, merges, full, replies, result⟩ := acknowledged
  obtain ⟨handed, member, -⟩ := traced.event_of_replies brings merges result
  have carries :
      Event.update? ⟨id, hub, document, .merge update, .value handed⟩ = some update :=
    update?_eq_some.mpr ⟨rfl, full⟩
  refine ⟨_, mem_commits.mpr ⟨mem_eventsOf.mpr ⟨member, rfl⟩, ?_⟩, rfl, carries⟩
  simp [Event.committed, carries]

/-- An update that was merged was brought by a frame, whose only section this was. -/
theorem frame_of_update (member : event ∈ events path) (carries : event.update? = some update) :
    ∃ frame, Brings path event.job event.hub event.document frame ∧
      frame.task? = some (.merge update) ∧ eventsBy event.job path = [event] ∧
      ∀ outcome, hubs.result? event.job = some outcome →
        Reports frame (some event.ending) outcome := by
  obtain ⟨merges, -⟩ := update?_eq_some.mp carries
  rcases traced.of_event member with ⟨frame, brings, opens⟩ | evicts
  · obtain ⟨told, settles, reports⟩ := traced.of_frame brings opens
    have own : event ∈ eventsBy event.job path := mem_eventsBy.mpr ⟨member, rfl⟩
    rw [settles] at own
    obtain ⟨ending, rfl, equal⟩ := mem_recorded.mp own
    have ends : event.ending = ending := by rw [equal]
    refine ⟨frame, brings, opens.trans (congrArg some merges), ?_, ?_⟩
    · rw [settles, recorded, Option.map_some, Option.toList_some, ← equal]
    · rw [ends]
      exact reports
  · rw [merges] at evicts
    cases evicts

/-- No frame has its update merged twice. -/
theorem nodup_jobs {kept : List Event} (ordered : kept.Sublist (eventsOf document path).reverse)
    (carry : ∀ event ∈ kept, ∃ update, event.update? = some update) :
    (kept.map Event.job).Nodup := by
  rw [List.nodup_iff_count]
  intro id
  by_cases member : id ∈ kept.map Event.job
  · obtain ⟨event, holds, rfl⟩ := List.mem_map.mp member
    obtain ⟨update, carries⟩ := carry event holds
    have ended := (mem_eventsOf.mp (List.mem_reverse.mp (ordered.subset holds))).1
    obtain ⟨frame, -, -, sole, -⟩ := traced.frame_of_update ended carries
    have within : (kept.filter fun other => other.job = event.job).length ≤
        (eventsBy event.job path).length := by
      have whole : kept.reverse.Sublist (events path) := by
        have reversed := ordered.reverse
        rw [List.reverse_reverse] at reversed
        exact reversed.trans List.filter_sublist
      have filtered := (whole.filter fun other => other.job = event.job).length_le
      rwa [List.filter_reverse, List.length_reverse] at filtered
    rw [List.count_eq_countP, List.countP_map, List.countP_eq_length_filter]
    rw [sole] at within
    refine Nat.le_trans (Nat.le_of_eq ?_) within
    congr 1
  · rw [List.count_eq_zero_of_not_mem member]
    exact Nat.zero_le _

end Traced

end

end Coedit.Hubs
