import Coedit.Proofs.UpdateLog.Codec
import Coedit.Proofs.UpdateLog.Commits

/-!
# Histories of update logs

What the history of a document comes to if documents are kept as update logs.  The
version counts the updates that were committed, and content of a version holds all that
were committed up to it, in their order; updates whose save failed half-way may stand
among them.
-/

namespace Coedit

/-- The engine of update logs refuses what it cannot merge. -/
theorem UpdateLog.engine_isSteady : UpdateLog.engine.IsSteady := by
  intro content update message crashed
  simp only [engine] at crashed
  split at crashed
  · cases crashed
  · cases crashed

namespace Hubs

open Section (unstored)

/-! ## Content -/

/-- Content that holds the first so many commits, in their order, after what was stored
at first.  If saves can be torn, updates whose save has failed may stand among them. -/
structure Composed (torn : Prop) (base : Bytes) (events : List Event) (count : Nat)
    (content : Bytes) (kept : List Event) : Prop where
  ordered : kept.Sublist events.reverse
  complete : kept.filter Event.committed = (commits events).take count
  others : ∀ event ∈ kept, event.committed ∨ torn ∧ event.failed
  short : ∀ update ∈ updates kept, update.length < UInt32.size
  content : content = base ++ UpdateLog.encode (updates kept)

namespace Composed

variable {torn : Prop} {base content update : Bytes} {events kept : List Event} {count : Nat}
  {event : Event}

/-- Content stays composed while others go on. -/
theorem later (composed : Composed torn base events count content kept)
    (bound : count ≤ (commits events).length) :
    Composed torn base (event :: events) count content kept := by
  refine ⟨?_, ?_, composed.others, composed.short, composed.content⟩
  · rw [List.reverse_cons]
    exact composed.ordered.trans (List.sublist_append_left ..)
  · rw [take_commits bound]
    exact composed.complete

/-- Content to which the update of the last section is appended. -/
theorem append {after : Nat} (composed : Composed torn base events count content kept)
    (carries : event.update? = some update) (short : update.length < UInt32.size)
    (permitted : event.committed ∨ torn ∧ event.failed)
    (complete : (kept ++ [event]).filter Event.committed =
      (commits (event :: events)).take after) :
    Composed torn base (event :: events) after (content ++ UpdateLog.encodeRecord update)
      (kept ++ [event]) := by
  have carried : updates (kept ++ [event]) = updates kept ++ [update] := by
    simp [updates, carries]
  refine ⟨?_, complete, ?_, ?_, ?_⟩
  · rw [List.reverse_cons]
    exact composed.ordered.append (List.Sublist.refl _)
  · intro other member
    rcases List.mem_append.mp member with old | new
    · exact composed.others other old
    · rw [List.mem_singleton.mp new]
      exact permitted
  · intro other member
    rw [carried] at member
    rcases List.mem_append.mp member with old | new
    · exact composed.short other old
    · rw [List.mem_singleton.mp new]
      exact short
  · rw [carried, UpdateLog.encode_append, UpdateLog.encode_singleton, ← List.append_assoc,
      ← composed.content]

theorem commit (composed : Composed torn base events (commits events).length content kept)
    (carries : event.update? = some update) (short : update.length < UInt32.size)
    (committed : event.committed = true) :
    Composed torn base (event :: events) (commits (event :: events)).length
      (content ++ UpdateLog.encodeRecord update) (kept ++ [event]) := by
  refine composed.append carries short (.inl committed) ?_
  rw [List.take_length, commits_of_committed committed, List.filter_append, composed.complete,
    List.take_length]
  simp [committed]

theorem tear (composed : Composed torn base events (commits events).length content kept)
    (carries : event.update? = some update) (short : update.length < UInt32.size) (tears : torn)
    (failed : event.failed = true) (idle : event.committed = false) :
    Composed torn base (event :: events) (commits (event :: events)).length
      (content ++ UpdateLog.encodeRecord update) (kept ++ [event]) := by
  refine composed.append carries short (.inr ⟨tears, failed⟩) ?_
  rw [List.take_length, commits_of_not_committed idle, List.filter_append, composed.complete,
    List.take_length]
  simp [idle]

/-- If no save is torn, nothing but commits is in the content. -/
theorem eq_take (composed : Composed False base events count content kept) :
    content = base ++ UpdateLog.encode (updates ((commits events).take count)) := by
  have all : kept.filter Event.committed = kept := by
    rw [List.filter_eq_self]
    intro event member
    rcases composed.others event member with committed | ⟨impossible, -⟩
    · exact committed
    · cases impossible
  rw [← composed.complete, all]
  exact composed.content

/-- The records of content are those of what was stored at first and then its updates. -/
theorem records (composed : Composed torn base events count content kept) {found : List Bytes}
    (parsed : UpdateLog.records base = .ok found) :
    UpdateLog.records content = .ok (found ++ updates kept) := by
  rw [composed.content]
  exact UpdateLog.records_append_encode parsed composed.short

end Composed

/-! ## Journals -/

/-- Failed saves have no effect, or at most are torn: the content is saved, its version
is not. -/
def Tears (torn : Prop) (leaves : Option Snapshot → Snapshot → Option Snapshot → Prop) : Prop :=
  ∀ before saved after, leaves before saved after →
    after = before ∨ torn ∧ after = some ⟨saved.content, (before.getD unstored).version⟩

/-- What is loaded and what is stored of a document that is kept as an update log. -/
structure Journal (torn : Prop) (initial : Option Snapshot) (events : List Event)
    (desks : HubId → Desk) (stored : Option Snapshot) : Prop where
  version : (stored.getD unstored).version =
    (initial.getD unstored).version + (commits events).length
  content : ∃ kept, Composed torn (initial.getD unstored).content events (commits events).length
    (stored.getD unstored).content kept
  desk {id : HubId} {cell : CellId} {loaded : Document} (found : desks id = some (cell, loaded)) :
    ∃ count kept, count ≤ (commits events).length ∧
      loaded.version = (initial.getD unstored).version + count ∧
      Composed torn (initial.getD unstored).content events count loaded.content kept

namespace Journal

variable {torn : Prop} {initial stored after : Option Snapshot} {events : List Event}
  {desks : HubId → Desk} {event : Event} {desk : Desk} {cell : CellId} {loaded : Document}
  {leaves : Option Snapshot → Snapshot → Option Snapshot → Prop}

theorem start : Journal torn initial [] (fun _ => none) initial := by
  constructor
  · rfl
  · exact ⟨[], List.Sublist.refl _, rfl, by simp, by simp [updates], by simp [updates, UpdateLog.encode]⟩
  · rintro _ _ _ ⟨⟩

/-- Whatever a section has loaded, it is as recent as what is stored. -/
theorem of_loads (journal : Journal torn initial events desks stored) {id : HubId}
    (loads : Section.Loads (desks id) stored desk cell loaded) :
    desk = some (cell, loaded) ∧
      loaded.version = (initial.getD unstored).version + (commits events).length ∧
      ∃ kept, Composed torn (initial.getD unstored).content events (commits events).length
        loaded.content kept := by
  cases loads with
  | current found recent =>
      obtain ⟨count, kept, bound, version, composed⟩ := journal.desk found
      have recent : (stored.getD unstored).version ≤ loaded.version := by
        cases stored with
        | none => exact Nat.zero_le _
        | some snapshot => exact recent snapshot rfl
      have whole : count = (commits events).length := by
        have := journal.version
        omega
      rw [whole] at version composed
      exact ⟨found, version, kept, composed⟩
  | stale found saved late =>
      have version := journal.version
      have content := journal.content
      rw [saved] at version content
      exact ⟨rfl, version, content⟩
  | first absent => exact ⟨rfl, journal.version, journal.content⟩

/-- What is loaded stays composed while others go on. -/
theorem desk_later (journal : Journal torn initial events desks stored) {id : HubId}
    (found : desks id = some (cell, loaded)) :
    ∃ count kept, count ≤ (commits (event :: events)).length ∧
      loaded.version = (initial.getD unstored).version + count ∧
      Composed torn (initial.getD unstored).content (event :: events) count loaded.content
        kept := by
  obtain ⟨count, kept, bound, version, composed⟩ := journal.desk found
  have grows := (commits_mono (List.suffix_cons event events)).length_le
  exact ⟨count, kept, Nat.le_trans bound grows, version, composed.later bound⟩

/-- A section that has changed what its hub has loaded, and what is stored. -/
theorem changed (journal : Journal torn initial events desks stored)
    (version : (after.getD unstored).version =
      (initial.getD unstored).version + (commits (event :: events)).length)
    (content : ∃ kept, Composed torn (initial.getD unstored).content (event :: events)
      (commits (event :: events)).length (after.getD unstored).content kept)
    (here : ∀ cell loaded, desk = some (cell, loaded) →
      ∃ count kept, count ≤ (commits (event :: events)).length ∧
        loaded.version = (initial.getD unstored).version + count ∧
        Composed torn (initial.getD unstored).content (event :: events) count loaded.content
          kept) :
    Journal torn initial (event :: events) (Function.update desks event.hub desk) after := by
  refine ⟨version, content, ?_⟩
  intro id cell loaded found
  by_cases same : id = event.hub
  · rw [same, Function.update_self] at found
    exact here cell loaded found
  · rw [Function.update_of_ne same] at found
    exact journal.desk_later found

/-- A section that has committed nothing, and has left what is stored alone. -/
theorem idle (journal : Journal torn initial events desks stored)
    (idle : event.committed = false)
    (here : desk = desks event.hub ∨ desk = none ∨
      ∃ cell loaded, Section.Loads (desks event.hub) stored desk cell loaded) :
    Journal torn initial (event :: events) (Function.update desks event.hub desk) stored := by
  have same : commits (event :: events) = commits events := commits_of_not_committed idle
  refine journal.changed ?_ ?_ ?_
  · rw [same]
    exact journal.version
  · obtain ⟨kept, composed⟩ := journal.content
    rw [same]
    exact ⟨kept, composed.later (Nat.le_refl _)⟩
  · intro cell loaded found
    rcases here with rfl | rfl | ⟨cell', loaded', loads⟩
    · exact journal.desk_later found
    · cases found
    · obtain ⟨equal, version, kept, composed⟩ := journal.of_loads loads
      rw [equal] at found
      cases found
      rw [same]
      exact ⟨_, kept, Nat.le_refl _, version, composed.later (Nat.le_refl _)⟩

/-- A section that was to store something has merged an update. -/
theorem update_of_merged (event : Event) {update : Bytes} {outcome : Merged}
    (merges : event.task = .merge update)
    (verdict : UpdateLog.engine.apply loaded.content update = .merged outcome)
    (changes : ¬ (outcome.broadcast = none ∧ outcome.content = loaded.content)) :
    event.update? = some update ∧ update.length < UInt32.size ∧
      outcome = ⟨loaded.content ++ UpdateLog.encodeRecord update, some update⟩ := by
  rcases UpdateLog.append_eq_ok (UpdateLog.engine_merged verdict) with
    ⟨-, rfl⟩ | ⟨full, short, equal⟩
  · exact absurd ⟨rfl, rfl⟩ changes
  · refine ⟨?_, short, equal⟩
    cases update with
    | nil => exact absurd rfl full
    | cons byte rest => simp only [Event.update?, merges]

/-- A save that was torn leaves content without its version. -/
theorem unsaved (journal : Journal torn initial events desks stored) (tears : torn)
    {update : Bytes} (carries : event.update? = some update) (short : update.length < UInt32.size)
    (failed : event.failed = true) (idle : event.committed = false)
    (loads : Section.Loads (desks event.hub) stored desk cell loaded) :
    Journal torn initial (event :: events) (Function.update desks event.hub desk)
      (some ⟨loaded.content ++ UpdateLog.encodeRecord update, (stored.getD unstored).version⟩) := by
  obtain ⟨equal, version, kept, composed⟩ := journal.of_loads loads
  have same : commits (event :: events) = commits events := commits_of_not_committed idle
  refine journal.changed ?_ ?_ ?_
  · rw [same]
    exact journal.version
  · exact ⟨_, composed.tear carries short tears failed idle⟩
  · intro cell' loaded' found
    rw [equal] at found
    cases found
    rw [same]
    exact ⟨_, kept, Nat.le_refl _, version, composed.later (Nat.le_refl _)⟩

/-- A commit is the next version, for the hub and for the store. -/
theorem committed (journal : Journal torn initial events desks stored)
    {update : Bytes} (carries : event.update? = some update) (short : update.length < UInt32.size)
    (committed : event.committed = true)
    (loads : Section.Loads (desks event.hub) stored desk cell loaded) (now : Instant) :
    Journal torn initial (event :: events)
      (Function.update desks event.hub (some (cell,
        (loaded.revise (loaded.content ++ UpdateLog.encodeRecord update) now).markClean)))
      (some ⟨loaded.content ++ UpdateLog.encodeRecord update, loaded.version + 1⟩) := by
  obtain ⟨-, version, kept, composed⟩ := journal.of_loads loads
  have grown : (commits (event :: events)).length = (commits events).length + 1 := by
    rw [commits_of_committed committed, List.length_append]
    rfl
  have next : loaded.version + 1 =
      (initial.getD unstored).version + (commits (event :: events)).length := by
    rw [version, grown, Nat.add_assoc]
  have content := composed.commit carries short committed
  refine journal.changed next ⟨_, content⟩ ?_
  rintro _ _ ⟨⟩
  exact ⟨_, _, Nat.le_refl _, next, content⟩

/-- Each section hands a journal on. -/
theorem step (journal : Journal torn initial events desks stored) (tears : Tears torn leaves)
    (does : Section.Does UpdateLog.engine leaves (desks event.hub) stored event.task event.ending
      desk after) :
    Journal torn initial (event :: events) (Function.update desks event.hub desk) after := by
  obtain ⟨id, hub, document, task, ending⟩ := event
  cases does with
  | unread error => exact journal.idle rfl (.inl rfl)
  | told loads verdict => exact journal.idle rfl (.inr (.inr ⟨_, _, loads⟩))
  | untold loads verdict => exact journal.idle rfl (.inr (.inr ⟨_, _, loads⟩))
  | refused loads verdict => exact journal.idle rfl (.inr (.inr ⟨_, _, loads⟩))
  | @unchanged update _ _ _ loads verdict =>
      refine journal.idle ?_ (.inr (.inr ⟨_, _, loads⟩))
      rcases UpdateLog.append_eq_ok (UpdateLog.engine_merged verdict) with ⟨rfl, -⟩ | ⟨-, -, equal⟩
      · rfl
      · cases congrArg Merged.broadcast equal
  | @unsaved update outcome _ _ loaded _ loads verdict changes left error =>
      rcases tears _ _ _ left with rfl | ⟨tears, rfl⟩
      · exact journal.idle rfl (.inr (.inr ⟨_, _, loads⟩))
      · obtain ⟨carries, short, rfl⟩ := update_of_merged
          ⟨id, hub, document, .merge update, .error (.archive error)⟩ rfl verdict changes
        exact journal.unsaved tears carries short (by simp [Event.failed, carries]) rfl loads
  | @committed update outcome _ _ loaded loads verdict changes now =>
      obtain ⟨carries, short, rfl⟩ := update_of_merged
        ⟨id, hub, document, .merge update, .value outcome.broadcast⟩ rfl verdict changes
      exact journal.committed carries short (by simp [Event.committed, carries]) loads now
  | flushed => exact journal.idle rfl (.inl rfl)
  | stayed => exact journal.idle rfl (.inl rfl)
  | evicted => exact journal.idle rfl (.inr (.inl rfl))

end Journal

/-- The history of a document that is kept as an update log is a journal. -/
theorem History.journal {torn : Prop} {initial stored : Option Snapshot} {events : List Event}
    {desks : HubId → Desk} {leaves : Option Snapshot → Snapshot → Option Snapshot → Prop}
    (history : History UpdateLog.engine leaves initial events desks stored)
    (tears : Tears torn leaves) : Journal torn initial events desks stored := by
  induction history with
  | start => exact .start
  | next history does ih => exact ih.step tears does

/-- Every version is kept if those of all commits are. -/
theorem fitting_of_bound {torn : Prop} {initial : Option Snapshot} {events : List Event}
    {leaves : Option Snapshot → Snapshot → Option Snapshot → Prop} {fits : Nat → Prop}
    (tears : Tears torn leaves)
    (bound : ∀ version, version ≤ (initial.getD unstored).version + (commits events).length →
      fits version) :
    Fitting fits UpdateLog.engine leaves initial events := by
  intro earlier suffix desks stored history snapshot member
  apply bound
  cases stored with
  | none => cases member
  | some saved =>
      cases member
      have version := (history.journal tears).version
      have grows := (commits_mono suffix).length_le
      simp only [Option.getD_some] at version
      omega

section

variable {B Fault Ask : Type} {Answer : Ask → Type} [Medium B Fault Ask Answer]
  {archive : Archive Ask Answer} {keeping : archive.Keeping B Fault}

theorem tears_of_whole (whole : keeping.IsWhole) : Tears False keeping.Leaves :=
  fun before saved after leaves => .inl (whole before saved after leaves)

/-- Every version is kept if sixty-four bits hold that of the last commit. -/
theorem fitting_of_wide {initial : Option Snapshot} {events : List Event}
    (whole : keeping.IsWhole) (wide : keeping.IsWide)
    (bound : (initial.getD unstored).version + (commits events).length < UInt64.size) :
    Fitting keeping.Fits UpdateLog.engine keeping.Leaves initial events :=
  fitting_of_bound (tears_of_whole whole) fun version below =>
    wide version (Nat.lt_of_le_of_lt below bound)

end

end Hubs

end Coedit
