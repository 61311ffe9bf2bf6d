import Coedit.Archive
import Coedit.Proofs.Program.Safe
import Mathlib.Logic.Function.Basic

/-!
# The contract of an archive

What an archive does to a document, told by the place the document has on the medium.
The programs of an archive for one document keep to rules for its place, and every
question that keeps to them leaves the places of all other documents alone.  Whoever
has a document to itself therefore relies on its place as on a variable of its own.
-/

namespace Coedit.Archive

variable {Ask Fault B : Type} {Answer : Ask → Type}

/-- An archive that keeps documents on a medium. -/
structure Keeping (archive : Archive Ask Answer) (B Fault : Type)
    [Medium B Fault Ask Answer] where
  /-- All that matters of one document on the medium. -/
  Place : Type
  /-- What the programs for a document may ask, and what they are answered. -/
  rules : DocumentId → Program.Rules Place Ask Answer
  /-- The documents have these places on the medium. -/
  Holds : (DocumentId → Place) → B → Prop
  /-- What is kept at a place; nothing can be said of a place that holds rubbish. -/
  Keeps : Place → Option Snapshot → Prop
  /-- The versions that can be kept. -/
  Fits : Nat → Prop
  /-- What a failed save of a snapshot may leave of what was kept before. -/
  Leaves : Option Snapshot → Snapshot → Option Snapshot → Prop
  /-- The failures with which a question can meet; none of them looks like an answer. -/
  Happens : Ask → Fault → Prop
  /-- How the medium may change by itself. -/
  Drifts : B → B → Prop
  /-- What the medium keeps of each document. -/
  stored : B → DocumentId → Option Snapshot
  stored_of_keeps {places : DocumentId → Place} {medium : B} {document : DocumentId}
    {snapshot : Option Snapshot} (holds : Holds places medium)
    (keeps : Keeps (places document) snapshot) : stored medium document = snapshot
  holds_of_drifts {places : DocumentId → Place} {medium after : B}
    (holds : Holds places medium) (drifts : Drifts medium after) : Holds places after
  answered {places : DocumentId → Place} {medium : B} {document : DocumentId} {question : Ask}
    {failure : Option Fault} (holds : Holds places medium)
    (asks : (rules document).asks (places document) question)
    (happens : ∀ fault ∈ failure, Happens question fault) :
    ∃ place, (rules document).answers (places document) question
        (Medium.attempt failure question medium).1 place ∧
      Holds (Function.update places document place) (Medium.attempt failure question medium).2
  load_safe (document : DocumentId) (place : Place) :
    (archive.load document).Safe (rules document)
      (fun result after => ∀ snapshot, Keeps place snapshot →
        Keeps after snapshot ∧ ∀ found, result = .ok found → found = snapshot) place
  version_safe (document : DocumentId) (place : Place) :
    (archive.version document).Safe (rules document)
      (fun result after => ∀ snapshot, Keeps place snapshot →
        Keeps after snapshot ∧ ∀ found, result = .ok found → found = snapshot.map (·.version))
      place
  save_safe (document : DocumentId) (saved : Snapshot) (place : Place) :
    (archive.save document saved).Safe (rules document)
      (fun result after => ∀ snapshot, Keeps place snapshot →
        match result with
        | .ok () => Fits saved.version → Keeps after (some saved)
        | .error _ => ∃ residue, Leaves snapshot saved residue ∧ Keeps after residue) place

/-- Saves take effect as a whole or not at all. -/
def Keeping.IsWhole {archive : Archive Ask Answer} [Medium B Fault Ask Answer]
    (keeping : archive.Keeping B Fault) : Prop :=
  ∀ before saved after, keeping.Leaves before saved after → after = before

/-- Every version of sixty-four bits can be kept. -/
def Keeping.IsWide {archive : Archive Ask Answer} [Medium B Fault Ask Answer]
    (keeping : archive.Keeping B Fault) : Prop :=
  ∀ version < UInt64.size, keeping.Fits version

/-- Whatever is asked can fail, and has no effect then. -/
def Keeping.CanFail {archive : Archive Ask Answer} [Medium B Fault Ask Answer]
    (keeping : archive.Keeping B Fault) : Prop :=
  ∀ (question : Ask) (medium : B), ∃ fault, keeping.Happens question fault ∧
    (Medium.attempt (some fault) question medium).2 = medium

end Coedit.Archive
