import Coedit.Archive
import Coedit.Disk
import Coedit.Json.Reader
import Coedit.Timestamp

/-!
# Archives in a directory

Each workspace is a directory; each document is a file with its content and beside
it a file with its version.  Either is written under an unused name and then moved
to its place.  The two are moved one after the other, content first; content
without a version counts as version 0.
-/

namespace Coedit.Archive.Files

/-- What the second file of a document says. -/
structure Meta where
  version : Nat
  /-- When the document was saved, in seconds. -/
  savedAt : Int
  deriving DecidableEq, Repr

/-- Versions that can be stored are below this. -/
def versionBound : Nat := UInt64.size

namespace Meta

/-- What is written for a version saved at an instant. -/
def render (version : Nat) (savedAt : Instant) : String :=
  Json.renderMembers
    [("version", toString version), ("saved_at", Json.renderText (Timestamp.render savedAt))]

/-- Read the second file: a record with just one version and one timestamp. -/
def ofBytes? (content : Bytes) : Option Meta := do
  let record ← Json.Value.ofBytes? content
  match record.fields? ["version", "saved_at"] with
  | some [version, savedAt] => do
      let number ← version.integer?
      guard (0 ≤ number && number < versionBound)
      let text ← savedAt.text?
      let moment ← Timestamp.parse? text
      return ⟨number.toNat, moment⟩
  | _ => none

end Meta

/-- Where the files of a document lie. -/
structure Places where
  directory : Path
  content : Path
  version : Path
  deriving DecidableEq, Repr

def contentName (name : String) : String := name ++ ".bin"

def metaName (name : String) : String := name ++ ".meta.json"

/-- The name under which content is written before it is moved to its place. -/
def contentDraft (name unused : String) : String :=
  FileName.withExtension (contentName name) ("tmp." ++ unused)

/-- The name under which a version is written before it is moved to its place. -/
def metaDraft (name unused : String) : String :=
  FileName.withExtension (metaName name) ("tmp." ++ unused)

/-- Where the files of a document lie; an identifier that is no name of a path has
no place. -/
def places (base : Path) (document : DocumentId) : Except ArchiveError Places :=
  if !Identifier.isPathName document.workspace then .error (.invalidPath document.workspace)
  else if !Identifier.isPathName document.name then .error (.invalidPath document.name)
  else
    let directory := base ++ [document.workspace]
    .ok ⟨directory, directory ++ [contentName document.name],
      directory ++ [metaName document.name]⟩

/-- A failed file operation and what it was for. -/
def ioError (purpose : String) (error : FileError) : ArchiveError :=
  .io (purpose ++ ": " ++ error.message)

/-- Write a file under an unused name, then move it to its place. -/
def writeFile (draftOf : String → Path) (place : Path) (content : Bytes) :
    FileProgram (Except ArchiveError Unit) :=
  .ask .unusedName fun
    | .error error => .done (.error (.io error.message))
    | .ok unused =>
        let draft := draftOf unused
        .ask (.write draft content) fun
          | .error error => .done (.error (ioError ("write " ++ draft.render) error))
          | .ok () =>
              .ask (.rename draft place) fun
                | .error error => .done (.error (ioError ("rename to " ++ place.render) error))
                | .ok () => .done (.ok ())

/-- The version in a file, none if there is no file. -/
def readVersion (place : Path) : FileProgram (Except ArchiveError (Option Nat)) :=
  .ask (.read place) fun
    | .error .notFound => .done (.ok none)
    | .error error => .done (.error (.io error.message))
    | .ok content =>
        match Meta.ofBytes? content with
        | some found => .done (.ok (some found.version))
        | none => .done (.error (.malformed "failed to parse meta: no version"))

def load (base : Path) (document : DocumentId) :
    FileProgram (Except ArchiveError (Option Snapshot)) :=
  match places base document with
  | .error error => .done (.error error)
  | .ok places =>
      .ask (.read places.content) fun
        | .error .notFound => .done (.ok none)
        | .error error => .done (.error (.io error.message))
        | .ok content =>
            (readVersion places.version).andThen fun version =>
              .done (.ok (some ⟨content, version.getD 0⟩))

/-- The version is in the second file; without one it is 0 if there is content. -/
def version (base : Path) (document : DocumentId) :
    FileProgram (Except ArchiveError (Option Nat)) :=
  match places base document with
  | .error error => .done (.error error)
  | .ok places =>
      (readVersion places.version).andThen fun
        | some version => .done (.ok (some version))
        | none =>
            .ask (.probe places.content) fun
              | .error error => .done (.error (.io error.message))
              | .ok present => .done (.ok (if present then some 0 else none))

def save (base : Path) (document : DocumentId) (snapshot : Snapshot) :
    FileProgram (Except ArchiveError Unit) :=
  match places base document with
  | .error error => .done (.error error)
  | .ok places =>
      .ask (.makeDirectories places.directory) fun
        | .error error =>
            .done (.error (ioError ("create " ++ places.directory.render) error))
        | .ok () =>
            .ask .time fun
              | .error error => .done (.error (.io error.message))
              | .ok now =>
                  (writeFile
                    (fun unused => places.directory ++ [contentDraft document.name unused])
                    places.content snapshot.content).andThen fun _ =>
                  writeFile
                    (fun unused => places.directory ++ [metaDraft document.name unused])
                    places.version (Bytes.ofText (Meta.render snapshot.version now))

/-- The archive in a directory. -/
def archive (base : Path) : Archive FileCall FileCall.Answer where
  name := "fs"
  load := load base
  version := version base
  save := save base

instance : Medium Host FileError FileCall FileCall.Answer := ⟨Host.attempt⟩

end Coedit.Archive.Files
