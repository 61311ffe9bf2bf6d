import Coedit.Bytes
import Coedit.Time

/-!
# Documents

How documents are told apart, which keys lock them, and which identifiers are safe to
take part in a key, a path and a route.  The loaded content of a document has a version,
and only the holder of the document's lock changes it.
-/

namespace Coedit

/-- A document: the workspace it lies in and its name there. -/
structure DocumentId where
  workspace : String
  name : String
  deriving DecidableEq, Repr, Inhabited

namespace Lock

/-- The key that locks one document. -/
def documentKey (document : DocumentId) : String :=
  "doc:" ++ document.workspace ++ ":" ++ document.name

/-- The key that locks a workspace. -/
def workspaceKey (workspace : String) : String := "workspace:" ++ workspace

end Lock

namespace Identifier

/-- Whether an identifier is one name of a path: not empty, no step to the same
or the upper directory, and without separators. -/
def isPathName (identifier : String) : Bool :=
  !(identifier == "" || identifier == "." || identifier == ".." ||
    identifier.toList.any fun char => char == '/' || char == '\\' || char == '\x00')

/-- Whether an identifier may come from outside: one name of a path that does not
hold the separator of lock keys either. -/
def isAdmissible (identifier : String) : Bool :=
  isPathName identifier && !identifier.toList.contains ':'

end Identifier

/-! ## Content -/

/-- A document as a store keeps it.  Stores have sixty-four bits for a version; versions do not
wrap around here, so theorems that compare them say that they stay within that. -/
structure Snapshot where
  content : Bytes
  version : Nat
  deriving DecidableEq, Repr

/-- A loaded document. -/
structure Document where
  content : Bytes
  version : Nat
  /-- When the content was last replaced. -/
  modified : Instant
  /-- Whether the content differs from what is stored. -/
  dirty : Bool
  deriving DecidableEq, Repr

namespace Document

/-- A document that was never stored. -/
def empty (now : Instant) : Document := ⟨[], 0, now, false⟩

/-- A document as it was stored. -/
def ofSnapshot (snapshot : Snapshot) (now : Instant) : Document :=
  ⟨snapshot.content, snapshot.version, now, false⟩

/-- Replace the content.  This is a new version even if no byte differs. -/
def revise (document : Document) (content : Bytes) (now : Instant) : Document :=
  ⟨content, document.version + 1, now, true⟩

/-- The content has been stored. -/
def markClean (document : Document) : Document := { document with dirty := false }

def size (document : Document) : Nat := document.content.length

def isEmpty (document : Document) : Bool := document.content.isEmpty

/-- What would be stored. -/
def snapshot (document : Document) : Snapshot := ⟨document.content, document.version⟩

end Document

end Coedit
