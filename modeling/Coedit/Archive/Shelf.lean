import Coedit.Archive
import Coedit.Table

/-!
# Archives in memory

The plainest archive: a table of snapshots.  A save takes effect as a whole or not
at all, and the version is that of what would be loaded.
-/

namespace Coedit.Archive

/-- The snapshots on a shelf. -/
abbrev Shelf := Table DocumentId Snapshot

namespace Shelf

inductive Call where
  | load (document : DocumentId)
  | save (document : DocumentId) (snapshot : Snapshot)
  deriving DecidableEq, Repr

abbrev Call.Result : Call → Type
  | .load _ => Option Snapshot
  | .save _ _ => Unit

abbrev Call.Answer (call : Call) : Type := Except ArchiveError call.Result

/-- Answer a call, or fail without effect. -/
def perform (failure : Option ArchiveError) (call : Call) (shelf : Shelf) :
    call.Answer × Shelf :=
  match failure with
  | some error => (.error error, shelf)
  | none =>
      match call with
      | .load document => (.ok (shelf.get? document), shelf)
      | .save document snapshot => (.ok (), shelf.insert document snapshot)

def archive : Archive Call Call.Answer where
  name := "mem"
  load document := .query (Call.load document)
  version := versionByLoad fun document => .query (Call.load document)
  save document snapshot := .query (Call.save document snapshot)

instance : Medium Shelf ArchiveError Call Call.Answer := ⟨perform⟩

end Shelf

end Coedit.Archive
