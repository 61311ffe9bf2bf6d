import Coedit.Document
import Coedit.Program
import Coedit.Text

/-!
# Archives

Where documents outlive the process.  An archive is given by the programs that
load a document, tell its version, and save it.
-/

namespace Coedit

/-- Why an archive fails. -/
inductive ArchiveError where
  | io (detail : String)
  | malformed (detail : String)
  /-- The identifier cannot be part of a path. -/
  | invalidPath (identifier : String)
  deriving DecidableEq, Repr

def ArchiveError.message : ArchiveError → String
  | .io detail => "I/O error: " ++ detail
  | .malformed detail => "serialization error: " ++ detail
  | .invalidPath identifier =>
      "invalid document path component: " ++ Text.quoted identifier

/-- An archive whose programs ask questions `Ask`. -/
structure Archive (Ask : Type) (Answer : Ask → Type) where
  name : String
  load : DocumentId → Program Ask Answer (Except ArchiveError (Option Snapshot))
  /-- The version of the stored document, if there is one. -/
  version : DocumentId → Program Ask Answer (Except ArchiveError (Option Nat))
  save : DocumentId → Snapshot → Program Ask Answer (Except ArchiveError Unit)

/-- What an archive's programs are run on.  Any operation can be made to fail, and
has no effect then. -/
class Medium (B Fault : Type) (Ask : outParam Type) (Answer : outParam (Ask → Type)) where
  attempt : (failure : Option Fault) → (question : Ask) → B → Answer question × B

namespace Archive

variable {Ask : Type} {Answer : Ask → Type}

/-- Tell the version by loading the document. -/
def versionByLoad
    (load : DocumentId → Program Ask Answer (Except ArchiveError (Option Snapshot)))
    (document : DocumentId) : Program Ask Answer (Except ArchiveError (Option Nat)) :=
  (load document).mapResult (·.map (·.map Snapshot.version))

/-- The same archive, asking in other words. -/
def relabel {Ask' : Type} {Answer' : Ask' → Type} (archive : Archive Ask Answer)
    (word : Ask → Ask')
    (understand : (question : Ask) → Answer' (word question) → Answer question) :
    Archive Ask' Answer' where
  name := archive.name
  load document := (archive.load document).relabel word understand
  version document := (archive.version document).relabel word understand
  save document snapshot := (archive.save document snapshot).relabel word understand

end Archive

end Coedit
