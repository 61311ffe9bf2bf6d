import Coedit.Proofs.Hub.Serial

/-!
# What is loaded has been stored

At any time, and not only between sections, every loaded document whose version can be kept
is one that was stored, with its version, or the empty document.  Nothing is lost when it is
dropped.
-/

namespace Coedit

namespace Section

variable {Ask Fault B : Type} {Answer : Ask → Type} {archive : Archive Ask Answer}
  [Medium B Fault Ask Answer] {keeping : archive.Keeping B Fault}

/-- A cell holds after a call what it held before it, or what is stored by then, or the
empty document. -/
theorem Answered.held {desk after : Desk} {place origin : keeping.Place} {call : Call}
    {answer : call.Answer} {stored : Option Snapshot}
    (answered : Answered desk call answer after)
    (backs : Backs keeping origin (desk, place) call) (keeps : keeping.Keeps origin stored)
    {cell : CellId} {loaded : Document} (found : after = some (cell, loaded))
    (fits : keeping.Fits loaded.version) :
    (∃ before, desk = some (cell, before) ∧ loaded.content = before.content ∧
        loaded.version = before.version) ∨
      keeping.Keeps place (some ⟨loaded.content, loaded.version⟩) ∨
      loaded.content = [] ∧ loaded.version = 0 := by
  have same : after = desk → ∃ before, desk = some (cell, before) ∧
      loaded.content = before.content ∧ loaded.version = before.version := by
    intro equal
    exact ⟨loaded, equal.symm.trans found, rfl, rfl⟩
  cases call with
  | find _ => exact .inl (same answered.2)
  | look _ => exact .inl (same answered.2)
  | place _ snapshot =>
      cases desk with
      | some held => exact .inl (same answered.2)
      | none =>
          obtain ⟨now, equal⟩ := answered
          rw [found] at equal
          cases equal
          obtain ⟨kept, rfl⟩ := backs stored keeps
          cases stored with
          | none => exact .inr (.inr ⟨rfl, rfl⟩)
          | some saved => exact .inr (.inl kept)
  | refresh _ snapshot =>
      obtain ⟨-, now, equal⟩ := answered
      rw [found] at equal
      cases equal
      exact .inr (.inl (backs stored keeps))
  | commit _ content =>
      obtain ⟨-, now, before, held, equal⟩ := answered
      rw [found] at equal
      cases equal
      exact .inr (.inl (backs stored keeps before held fits))
  | clean _ =>
      obtain ⟨-, before, held, equal⟩ := answered
      rw [found] at equal
      cases equal
      exact .inl ⟨before, held, rfl, rfl⟩
  | poison _ => cases answered
  | forget _ =>
      rw [found] at answered
      cases answered
  | sessions _ => exact .inl (same answered)

end Section

namespace Hubs

variable {S B Fault Ask : Type} {Answer : Ask → Type} [Medium B Fault Ask Answer]
  {archive : Archive Ask Answer} {keeping : archive.Keeping B Fault} {engine : Engine}
  {first : DocumentId → keeping.Place} {start hubs after : Hubs S B Ask Answer}
  {path : List (Hubs S B Ask Answer × Move B Fault)} {places : DocumentId → keeping.Place}
  {move : Move B Fault} {document : DocumentId}

/-- Whether the store has held a snapshot of a document on a run. -/
def HasHeld (keeping : archive.Keeping B Fault)
    (path : List (Hubs S B Ask Answer × Move B Fault)) (hubs : Hubs S B Ask Answer)
    (document : DocumentId) (snapshot : Snapshot) : Prop :=
  ∃ at', (at' = hubs ∨ ∃ move, (at', move) ∈ path) ∧
    keeping.stored at'.medium document = some snapshot

/-- Whether a loaded document has nothing that the store has not held. -/
def Backed (keeping : archive.Keeping B Fault)
    (path : List (Hubs S B Ask Answer × Move B Fault)) (hubs : Hubs S B Ask Answer)
    (document : DocumentId) (loaded : Document) : Prop :=
  HasHeld keeping path hubs document ⟨loaded.content, loaded.version⟩ ∨
    loaded.content = [] ∧ loaded.version = 0

theorem HasHeld.later {snapshot : Snapshot} (held : HasHeld keeping path hubs document snapshot) :
    HasHeld keeping ((hubs, move) :: path) after document snapshot := by
  obtain ⟨at', been, stored⟩ := held
  refine ⟨at', .inr ?_, stored⟩
  rcases been with rfl | ⟨move', member⟩
  · exact ⟨move, List.mem_cons_self ..⟩
  · exact ⟨move', List.mem_cons_of_mem _ member⟩

theorem Backed.later {loaded : Document} (backed : Backed keeping path hubs document loaded) :
    Backed keeping ((hubs, move) :: path) after document loaded :=
  backed.imp_left HasHeld.later

/-- Nothing loaded of a document has still to be stored, and whatever can be kept of it has
been stored. -/
def Covered (keeping : archive.Keeping B Fault)
    (path : List (Hubs S B Ask Answer × Move B Fault)) (hubs : Hubs S B Ask Answer)
    (document : DocumentId) : Prop :=
  ∀ id cell loaded, hubs.desk id document = some (cell, loaded) →
    loaded.dirty = false ∧ (keeping.Fits loaded.version → Backed keeping path hubs document loaded)

variable [Lease.Store S] [Lease.Lawful S]

omit [Lease.Lawful S] in
/-- Every move leaves only documents loaded that have been stored. -/
theorem Kept.covered_step (kept : Kept keeping engine first path hubs places)
    (orderly : hubs.Orderly archive engine) (effect : hubs.Effect move after)
    {initial : Option Snapshot} (keeps : keeping.Keeps (first document) initial)
    (fitting : Fitting keeping.Fits engine keeping.Leaves initial (eventsOf document path))
    (covered : Covered keeping path hubs document) :
    Covered keeping ((hubs, move) :: path) after document := by
  intro id cell loaded found
  have same : hubs.desk id document = some (cell, loaded) → loaded.dirty = false ∧
      (keeping.Fits loaded.version →
        Backed keeping ((hubs, move) :: path) after document loaded) := by
    intro found
    obtain ⟨clean, backed⟩ := covered id cell loaded found
    exact ⟨clean, fun fits => (backed fits).later⟩
  have still : (∀ id, after.core id = hubs.core id) → loaded.dirty = false ∧
      (keeping.Fits loaded.version →
        Backed keeping ((hubs, move) :: path) after document loaded) := by
    intro core
    rw [desk_of_core core] at found
    exact same found
  cases effect with
  | @asked _ target moment job answering operation call next aim hubFound isOpen runs beside site
      medium table jobs =>
      obtain ⟨document', task, continue', entry, rest, -⟩ := orderly.opens aim isOpen
      have serves := serves_of_job aim rest isOpen runs
      obtain ⟨desks, origin, working⟩ := (kept.standing document').working serves
      obtain ⟨answered, -, elsewhere⟩ := kept.answered hubFound working table
      by_cases here : id = job.hub ∧ document = document'
      · obtain ⟨rfl, rfl⟩ := here
        obtain ⟨stored, -, kept'⟩ := working.told initial keeps fitting
        refine ⟨answered.isClean (fun _ _ equal => (covered _ _ _ equal).1) cell loaded found, ?_⟩
        intro fits
        rcases answered.held working.safe.1.2 kept' found fits with
          ⟨before, held, content, version⟩ | now | empty
        · have old := (covered _ cell before held).2 (version ▸ fits)
          rw [Backed, content, version]
          exact old.later
        · exact .inl ⟨hubs, .inr ⟨_, List.mem_cons_self ..⟩,
            keeping.stored_of_keeps kept.holds now⟩
        · exact .inr empty
      · rw [elsewhere id document fun same equal => here ⟨same, equal⟩] at found
        exact same found
  | begun _ _ _ _ _ core => exact still core
  | quiet _ _ _ _ _ core => exact still core
  | replied _ _ _ _ _ _ core => exact still core
  | refused _ _ _ _ _ _ core => exact still core
  | opened _ _ _ _ _ _ _ _ core => exact still core
  | locked _ _ _ _ _ _ _ _ core => exact still core
  | ended _ _ _ _ _ _ _ _ core => exact still core
  | consulted _ _ _ _ _ core => exact still core
  | closed _ _ _ _ _ _ _ core => exact still core
  | drifted _ _ _ core => exact still core

/-- At any time, whatever is loaded of a document has been stored. -/
theorem Run.covered (run : Run keeping start path hubs)
    (starts : start.Starts keeping engine first) (steady : engine.IsSteady)
    {initial : Option Snapshot} (keeps : keeping.Keeps (first document) initial)
    (fitting : Fitting keeping.Fits engine keeping.Leaves initial (eventsOf document path)) :
    Covered keeping path hubs document := by
  induction run with
  | start =>
      intro id cell loaded found
      rw [starts.desk] at found
      cases found
  | move run permitted ih =>
      have before := fitting.of_suffix (eventsOf_suffix (List.suffix_cons ..))
      obtain ⟨places, kept⟩ := run.course.kept starts steady
      exact kept.covered_step (run.course.orderly starts) (effect_after _) keeps before (ih before)

end Hubs

end Coedit
