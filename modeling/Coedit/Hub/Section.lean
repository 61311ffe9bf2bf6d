import Coedit.Archive
import Coedit.Hub.Cache
import Coedit.Hub.Error
import Coedit.Operation

/-!
# Sections

What is done with a document while its lock is held: answer a peer that tells what
it has, merge an update, store the document, drop it from memory.  A section asks
its hub for the loaded document and the archive for the stored one; an update
counts only once it is stored.
-/

namespace Coedit.Section

/-- What a section asks of its hub. -/
inductive Call where
  /-- The cell of the document. -/
  | find (document : DocumentId)
  /-- What a cell holds, unless it is poisoned. -/
  | look (cell : CellId)
  /-- Register a document as it was stored. -/
  | place (document : DocumentId) (snapshot : Snapshot)
  /-- Put a document as it was stored into a cell. -/
  | refresh (cell : CellId) (snapshot : Snapshot)
  /-- Put new content, which is stored already, into a cell. -/
  | commit (cell : CellId) (content : Bytes)
  /-- The document in a cell is stored. -/
  | clean (cell : CellId)
  | poison (cell : CellId)
  | forget (document : DocumentId)
  /-- How many sessions a document has. -/
  | sessions (document : DocumentId)
  deriving DecidableEq, Repr

/-- The answer to a call.  A cell that is poisoned is not changed. -/
abbrev Call.Answer : Call → Type
  | .find _ => Option CellId
  | .look _ => Option Document
  | .place _ _ => CellId
  | .refresh _ _ => Bool
  | .commit _ _ => Bool
  | .clean _ => Bool
  | .poison _ => Unit
  | .forget _ => Unit
  | .sessions _ => Nat

end Section

/-- What is done under a document's lock.  Beside its own calls a section has those
of the archive. -/
abbrev Section (Ask : Type) (Answer : Ask → Type) (α : Type) :=
  Program (Section.Call ⊕ Ask) (Program.Either Section.Call.Answer Answer)
    (Operation.Ending α Section.Error)

namespace Section

variable {Ask : Type} {Answer : Ask → Type} {α β : Type}

/-- Go on with the value of a section; an error or a breakdown ends it. -/
def andThen (first : Section Ask Answer α) (next : α → Section Ask Answer β) :
    Section Ask Answer β :=
  Program.bind first fun
    | .value value => next value
    | .error error => .done (.error error)
    | .panic message => .done (.panic message)

/-- Be done. -/
def finish (value : α) : Section Ask Answer α := .done (.value value)

/-- Make a call. -/
def request (call : Call) : Section Ask Answer call.Answer :=
  .ask (.inl call) fun answer => finish answer

/-- The text with which a section breaks down that meets a poisoned cell. -/
def poisonedText : String := "doc state poisoned: PoisonError \x7b .. \x7d"

/-- Look at a document; a poisoned cell breaks the section down. -/
def look (cell : CellId) : Section Ask Answer Document :=
  .ask (.inl (.look cell)) fun
    | some document => finish document
    | none => .done (.panic (some poisonedText))

/-- Change a document; a poisoned cell breaks the section down. -/
def change (call : Call) (allowed : call.Answer → Bool) : Section Ask Answer Unit :=
  .ask (.inl call) fun answer =>
    if allowed answer then finish () else .done (.panic (some poisonedText))

/-- Run a program of the archive; its error is the section's. -/
def consult (program : Program Ask Answer (Except ArchiveError α)) : Section Ask Answer α :=
  Program.bind program.onRight fun
    | .ok value => finish value
    | .error error => .done (.error (.archive error))

/-- A document that was never stored, as if it had been. -/
def unstored : Snapshot := ⟨[], 0⟩

/-- The cell of a document, which is loaded if it is not yet.  A loaded document
is checked against the stored version first, because another hub may have stored
a later one. -/
def load (archive : Archive Ask Answer) (document : DocumentId) : Section Ask Answer CellId :=
  (request (.find document)).andThen fun
    | some cell =>
        (look cell).andThen fun loaded =>
          (consult (archive.version document)).andThen fun version =>
            if version.all fun stored => stored ≤ loaded.version then finish cell
            else
              (consult (archive.load document)).andThen fun
                | some snapshot =>
                    (change (.refresh cell snapshot) (·)).andThen fun _ => finish cell
                | none => finish cell
    | none =>
        (consult (archive.load document)).andThen fun stored =>
          request (.place document (stored.getD unstored))

/-- What a peer that reports `vector` lacks. -/
def diff (archive : Archive Ask Answer) (engine : Engine) (document : DocumentId)
    (vector : Bytes) : Section Ask Answer Bytes :=
  (load archive document).andThen fun cell =>
    (look cell).andThen fun loaded =>
      match engine.diff loaded.content vector with
      | .ok lacking => finish lacking
      | .error error => .done (.error (.merge error))

/-- Merge an update and store the outcome; the answer is what to pass on.  The
loaded document changes only after the stored one has. -/
def merge (archive : Archive Ask Answer) (engine : Engine) (document : DocumentId)
    (update : Bytes) : Section Ask Answer (Option Bytes) :=
  (load archive document).andThen fun cell =>
    (look cell).andThen fun loaded =>
      match engine.apply loaded.content update with
      | .crashed message =>
          (request (.poison cell)).andThen fun _ => .done (.panic (some message))
      | .refused error => .done (.error (.merge error))
      | .merged outcome =>
          if outcome.broadcast = none ∧ outcome.content = loaded.content then finish none
          else
            (consult (archive.save document ⟨outcome.content, loaded.version + 1⟩)).andThen
              fun _ =>
                (change (.commit cell outcome.content) (·)).andThen fun _ =>
                  finish outcome.broadcast

/-- Store a loaded document that differs from what is stored: was it stored? -/
def flush (archive : Archive Ask Answer) (document : DocumentId) : Section Ask Answer Bool :=
  (request (.find document)).andThen fun
    | none => finish false
    | some cell =>
        (look cell).andThen fun loaded =>
          if loaded.dirty then
            (consult (archive.save document loaded.snapshot)).andThen fun _ =>
              (change (.clean cell) (·)).andThen fun _ => finish true
          else finish false

/-- Drop a document from memory, stored first if need be, unless it has sessions
again. -/
def evict (archive : Archive Ask Answer) (document : DocumentId) : Section Ask Answer Unit :=
  (request (.sessions document)).andThen fun sessions =>
    if sessions > 0 then finish ()
    else
      (flush archive document).andThen fun _ => request (.forget document)

end Section

end Coedit
