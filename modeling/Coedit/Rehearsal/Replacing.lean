import Coedit.Archive.Files
import Coedit.Archive.Shelf
import Coedit.Engine

/-!
# Replacing the real thing

What stands in for archives and engines in rehearsals: a depot of documents in a
directory or in memory, whose programs can be made to fail before they begin, and the
plainest engine.
-/

namespace Coedit.Rehearsal

/-! ## A depot of documents -/

/-- What an archive is used for. -/
inductive Errand where
  | load
  | version
  | save
  deriving DecidableEq, Repr

structure Depot where
  host : Host
  shelf : Archive.Shelf
  /-- The errands that fail, and how. -/
  faults : Table Errand ArchiveError

namespace Depot

inductive Question where
  /-- Does this errand fail? -/
  | trouble (errand : Errand)
  | file (call : FileCall)
  | shelf (call : Archive.Shelf.Call)
  deriving DecidableEq, Repr

abbrev Question.Answer : Question → Type
  | .trouble _ => Option ArchiveError
  | .file call => call.Answer
  | .shelf call => call.Answer

/-- Whether others can go on until the answer is there. -/
def Question.isSlow : Question → Bool
  | .trouble _ => false
  | .shelf _ => false
  | .file .time => false
  | .file .unusedName => false
  | .file _ => true

def answer : (question : Question) → Depot → question.Answer × Depot
  | .trouble errand, depot => (depot.faults.get? errand, depot)
  | .file call, depot =>
      let (answer, host) := depot.host.perform call
      (answer, { depot with host := host })
  | .shelf call, depot =>
      let (answer, shelf) := Archive.Shelf.perform none call depot.shelf
      (answer, { depot with shelf := shelf })

/-- The programs of a depot are never interrupted otherwise. -/
instance : Medium Depot Empty Question Question.Answer := ⟨fun _ => answer⟩

abbrev DepotArchive := Archive Question Question.Answer

/-- The documents below a directory. -/
def files (base : Path) : DepotArchive := (Archive.Files.archive base).relabel .file fun _ => id

/-- The documents in memory. -/
def memory : DepotArchive := Archive.Shelf.archive.relabel .shelf fun _ => id

/-- Look for trouble first. -/
def risk {α : Type} (errand : Errand)
    (program : Program Question Question.Answer (Except ArchiveError α)) :
    Program Question Question.Answer (Except ArchiveError α) :=
  .ask (.trouble errand) fun
    | some error => .done (.error error)
    | none => program

/-- An archive whose errands run into the troubles of the depot. -/
def troubled (archive : DepotArchive) : DepotArchive where
  name := archive.name
  load document := risk .load (archive.load document)
  version document := risk .version (archive.version document)
  save document snapshot := risk .save (archive.save document snapshot)

end Depot

/-! ## An engine that replaces -/

/-- An update is the new content, and peers are sent all of it.  What begins with `0xff`
is turned down, and over what begins with `0xfe` the engine breaks down. -/
def replacing : Engine where
  name := "replace"
  diff content vector := .ok (vector ++ content)
  apply _ update :=
    match update with
    | 0xff :: _ => .refused (.invalidUpdate "bad update")
    | 0xfe :: _ => .crashed "merge blew up"
    | _ => .merged ⟨update, none⟩

end Coedit.Rehearsal
