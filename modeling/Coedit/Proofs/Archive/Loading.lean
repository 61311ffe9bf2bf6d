import Coedit.Proofs.Archive.Files
import Coedit.Proofs.Disk.Reading

/-!
# What can be loaded

On a host that is in order, loading a document does not fail where something is kept, and
gives just that.  Saving keeps hosts in order.
-/

namespace Coedit.Archive.Files

variable {base path : Path} {document : DocumentId} {files : Places} {host : Host}
  {spots : DocumentId → Place} {question : FileCall}

/-- What is loaded of a document. -/
def loaded (base : Path) (host : Host) (document : DocumentId) :
    Except ArchiveError (Option Snapshot) :=
  ((load base document).run Host.perform host).1

/-- A host where the version of a document can be looked up wherever its content is.  The
unused names are random ones, with their 36 characters. -/
structure Orderly (base : Path) (host : Host) : Prop where
  named : host.disk.IsNamed
  long (number : Nat) : 36 ≤ (host.nameOf number).utf8ByteSize
  proper {document : DocumentId} {files : Places} (found : places base document = .ok files)
    (present : host.disk.node? files.content ≠ none) :
    Disk.nameError? (metaName document.name) = none

/-! ## Keeping hosts in order -/

theorem null_not_mem_of_isPathName {identifier : String}
    (isName : Identifier.isPathName identifier = true) : '\x00' ∉ identifier.toList := by
  intro mem
  have seen : (identifier.toList.any
      fun char => char == '/' || char == '\\' || char == '\x00') = true :=
    List.any_eq_true.mpr ⟨_, mem, by decide⟩
  rw [Identifier.isPathName, seen, Bool.or_true] at isName
  cases isName

theorem isPathName_of_places (found : places base document = .ok files) :
    Identifier.isPathName document.name = true := by
  unfold places at found
  split at found
  · cases found
  · split at found
    · cases found
    · next isName => simpa using isName

theorem ne_empty_of_isPathName {identifier : String}
    (isName : Identifier.isPathName identifier = true) : identifier ≠ "" := by
  rintro rfl
  cases isName

/-- If a file of a document could be written under an unused name, its version can be put
into its place. -/
theorem IsDraft.proper {unused : String} (isDraft : IsDraft base document unused path)
    (named : ∀ name ∈ path, Disk.nameError? name = none) (long : 36 ≤ unused.utf8ByteSize) :
    Disk.nameError? (metaName document.name) = none := by
  have size : document.name.utf8ByteSize + 41 ≤ Disk.maxName := by
    cases isDraft with
    | content found =>
        have short := (Disk.nameError?_eq_none.mp (named _ (List.mem_append_right _
          (List.mem_singleton.mpr rfl)))).2
        have mark : ".tmp.".utf8ByteSize = 5 := rfl
        rw [contentDraft_eq (ne_empty_of_isPathName (isPathName_of_places found)),
          String.utf8ByteSize_append, String.utf8ByteSize_append, mark] at short
        omega
    | version found =>
        have short := (Disk.nameError?_eq_none.mp (named _ (List.mem_append_right _
          (List.mem_singleton.mpr rfl)))).2
        have mark : ".meta.tmp.".utf8ByteSize = 10 := rfl
        rw [metaDraft_eq, String.utf8ByteSize_append, String.utf8ByteSize_append, mark] at short
        omega
  have isName : Identifier.isPathName document.name = true := by
    cases isDraft with
    | content found => exact isPathName_of_places found
    | version found => exact isPathName_of_places found
  refine Disk.nameError?_eq_none.mpr ⟨?_, ?_⟩
  · rw [metaName, String.toList_append, List.mem_append]
    rintro (inName | inEnding)
    · exact null_not_mem_of_isPathName isName inName
    · exact absurd inEnding (by decide)
  · have mark : ".meta.json".utf8ByteSize = 10 := rfl
    rw [metaName, String.utf8ByteSize_append, mark]
    omega

/-- No place becomes improper if no content appears. -/
theorem Orderly.of_content (orderly : Orderly base host) {after : Host}
    (named : after.disk.IsNamed) (names : after.nameOf = host.nameOf)
    (content : ∀ {document files}, places base document = .ok files →
      after.disk.node? files.content ≠ none →
        host.disk.node? files.content ≠ none ∨ Disk.nameError? (metaName document.name) = none) :
    Orderly base after where
  named := named
  long := names ▸ orderly.long
  proper found present := (content found present).elim (orderly.proper found) id

/-- Directories are made above all contents, and where nothing was. -/
theorem Orderly.makeDirectories (orderly : Orderly base host) (holds : Holds base spots host)
    {answer : Except FileError Unit} {disk : Disk} (found : places base document = .ok files)
    (makes : host.disk.makeDirectoriesFrom [] files.directory = (answer, disk)) :
    Orderly base { host with disk := disk } ∧ Disk.Opens (base.length + 2) host.disk disk := by
  obtain ⟨tree, changes⟩ := Disk.makeDirectoriesFrom_within holds.tree host.disk.node?_root makes
  have named := orderly.named.makeDirectoriesFrom (List.forall_mem_nil _) makes
  refine ⟨orderly.of_content named rfl ?_, ?_⟩
  · intro other others again present
    rcases changes others.content with same | ⟨-, -, within⟩
    · exact .inl (same ▸ present)
    · have short := within.length_le
      have deep := (IsFile.content again).length_eq
      rw [places_ok found] at short
      simp only [List.nil_append, List.length_append, List.length_singleton] at short
      omega
  · intro stem _
    rcases changes stem with same | ⟨missing, made, -⟩
    · exact .inl same
    · exact .inr ⟨missing, made⟩

/-- What is written under an unused name is no content yet. -/
theorem Orderly.write (orderly : Orderly base host) (holds : Holds base spots host)
    {unused : String} {content : Bytes} {disk : Disk} (name : (spots document).unused = some unused)
    (isDraft : IsDraft base document unused path) (writes : host.disk.write path content = .ok disk) :
    Orderly base { host with disk := disk } ∧ Disk.Opens (base.length + 2) host.disk disk := by
  obtain ⟨-, -, put⟩ := Disk.write_ok writes
  refine ⟨orderly.of_content (orderly.named.write writes) rfl ?_, ?_⟩
  · intro other others again present
    refine .inl ?_
    have present : disk.node? others.content ≠ none := present
    rw [put, if_neg] at present
    · exact present
    · rintro rfl
      obtain ⟨number, -, rfl⟩ := holds.named name
      exact isDraft.not_isFile holds.supply (.content again)
  · intro stem short
    refine .inl ((put stem).trans (if_neg ?_))
    rintro rfl
    rw [isDraft.length_eq] at short
    omega

/-- A content that is renamed into its place could be written under a longer name. -/
theorem Orderly.rename (orderly : Orderly base host) (holds : Holds base spots host)
    {source target : Path} {content : Bytes} {disk : Disk}
    (drafted : (spots document).draft = some (source, content))
    (isFile : IsFile base document target) (renames : host.disk.rename source target = .ok disk) :
    Orderly base { host with disk := disk } ∧ Disk.Opens (base.length + 2) host.disk disk := by
  obtain ⟨-, -, content, -, put⟩ := Disk.rename_ok renames
  obtain ⟨file, unused, name, isDraft⟩ := holds.drafted drafted
  refine ⟨orderly.of_content (orderly.named.rename renames) rfl ?_, ?_⟩
  · intro other others again present
    have present : disk.node? others.content ≠ none := present
    rw [put] at present
    split at present
    · next same =>
        have isContent := IsFile.content again
        rw [same] at isContent
        cases isFile.functional isContent
        obtain ⟨number, -, rfl⟩ := holds.named name
        refine .inr (isDraft.proper (orderly.named source ?_) (orderly.long number))
        rw [file]
        simp
    · split at present
      · contradiction
      · exact .inl present
  · intro stem short
    refine .inl ((put stem).trans ?_)
    rw [if_neg, if_neg]
    · rintro rfl
      rw [isDraft.length_eq] at short
      omega
    · rintro rfl
      rw [isFile.length_eq] at short
      omega

/-- What is asked about a document keeps the host in order, and changes nothing above the
files but for directories that are made. -/
theorem Orderly.performed (orderly : Orderly base host) (holds : Holds base spots host)
    (asks : Asks base document (spots document) question) :
    Orderly base (host.perform question).2 ∧
      Disk.Opens (base.length + 2) host.disk (host.perform question).2.disk := by
  have unchanged : Disk.Opens (base.length + 2) host.disk host.disk :=
    Disk.Opens.refl _ _
  cases asks with
  | @makeDirectories files found => exact orderly.makeDirectories holds found rfl
  | read isFile => exact ⟨orderly, unchanged⟩
  | probe isFile => exact ⟨orderly, unchanged⟩
  | time found => exact ⟨orderly, unchanged⟩
  | unusedName found => exact ⟨⟨orderly.named, orderly.long, orderly.proper⟩, unchanged⟩
  | @write unused path content name isDraft =>
      rw [Host.perform]
      cases writes : host.disk.write path content with
      | error error => exact ⟨orderly, unchanged⟩
      | ok disk => exact orderly.write holds name isDraft writes
  | @rename source target content drafted isFile =>
      rw [Host.perform]
      cases renames : host.disk.rename source target with
      | error error => exact ⟨orderly, unchanged⟩
      | ok disk => exact orderly.rename holds drafted isFile renames

/-! ## Loading -/

/-- Where there is no content, loading says so, or why it cannot be looked for. -/
theorem loaded_of_missing (found : places base document = .ok files) {error : FileError}
    (fails : host.disk.read files.content = .error error) :
    loaded base host document =
      if error = .notFound then .ok none else .error (.io error.message) := by
  rw [loaded, load, found]
  dsimp only
  rw [Program.run, Host.perform, fails]
  cases error <;> rfl

/-- The version is looked up where it is. -/
theorem loaded_of_content (found : places base document = .ok files) {content : Bytes}
    {version : Option Nat} (reads : host.disk.read files.content = .ok content)
    (tells : (readVersion files.version).run Host.perform host = (.ok version, host)) :
    loaded base host document = .ok (some ⟨content, version.getD 0⟩) := by
  rw [loaded, load, found]
  dsimp only
  rw [Program.run, Host.perform, reads]
  dsimp only
  rw [Program.run_andThen tells]
  rfl

/-- Where something is kept, its version can be looked up. -/
theorem readVersion_of_keeps (orderly : Orderly base host) (tree : host.disk.IsTree)
    (found : places base document = .ok files) {snapshot : Snapshot}
    (keeps : (spot base host document).Keeps (some snapshot)) :
    ∃ version, (readVersion files.version).run Host.perform host = (.ok version, host) ∧
      version.getD 0 = snapshot.version := by
  obtain ⟨content, version, told, equal⟩ := keeps
  rw [spot, found] at content told
  have present : host.disk.node? files.content ≠ none := by
    rw [show host.disk.node? files.content = _ from content]
    simp
  refine ⟨version, ?_, equal⟩
  cases version with
  | none =>
      have missing : host.disk.node? files.version = none := told
      have proper := orderly.proper found present
      rw [places_ok found] at present missing ⊢
      have walks := Disk.walk_into tree orderly.named (tree _ _ present)
        (metaName document.name)
      rw [proper] at walks
      have absent := Disk.read_of_missing missing
      rw [walks] at absent
      rw [readVersion, Program.run, Host.perform, absent]
      rfl
  | some number =>
      obtain ⟨bytes, version, file, read, rfl⟩ := told
      have reads := Disk.read_of_file tree orderly.named file
      rw [readVersion, Program.run, Host.perform, reads]
      dsimp only
      rw [read]
      rfl

/-- Where something is kept, loading gives just that. -/
theorem loaded_of_keeps (orderly : Orderly base host) (tree : host.disk.IsTree)
    {snapshot : Snapshot} (keeps : (spot base host document).Keeps (some snapshot)) :
    loaded base host document = .ok (some snapshot) := by
  cases found : places base document with
  | error error =>
      rw [spot, found] at keeps
      cases keeps.1
  | ok files =>
      obtain ⟨version, tells, equal⟩ := readVersion_of_keeps orderly tree found keeps
      obtain ⟨content, -⟩ := keeps
      rw [spot, found] at content
      rw [loaded_of_content found (Disk.read_of_file tree orderly.named content) tells, equal]

end Coedit.Archive.Files
