import Coedit.Proofs.Archive.Isolation

/-!
# Versions told in two ways

The version of a document can be told from its own file or by loading the document.  In
every directory to which saves lead, whether they fail or not, both give the same answer,
unless the name of the document is so long that its content could have a file and its
version could not: then loading finds nothing, and the version cannot be looked for.
-/

namespace Coedit

/-! ## Files that are not there -/

namespace Disk

variable {disk : Disk} {base path : Path} {name : String} {error : FileError}

/-- On the way to what is no directory every walk ends alike, whatever comes behind it. -/
theorem walk_stops {rest : Path} (closed : disk.node? (base ++ rest) ≠ some .directory) :
    ∃ error, ∀ name, disk.walk base (rest ++ [name]) = .error error := by
  induction rest generalizing base with
  | nil =>
      rw [List.append_nil] at closed
      cases here : disk.node? base with
      | none => exact ⟨.notFound, fun name => by rw [List.nil_append, walk, here]⟩
      | some node =>
          cases node with
          | directory => exact absurd here closed
          | file content => exact ⟨.notDirectory, fun name => by rw [List.nil_append, walk, here]⟩
  | cons next rest ih =>
      cases here : disk.node? base with
      | none => exact ⟨.notFound, fun name => by rw [List.cons_append, walk, here]⟩
      | some node =>
          cases node with
          | file content => exact ⟨.notDirectory, fun name => by rw [List.cons_append, walk, here]⟩
          | directory =>
              cases improper : nameError? next with
              | some error => exact ⟨error, fun name => by simp [walk, here, improper]⟩
              | none =>
                  rw [List.append_cons] at closed
                  obtain ⟨error, stops⟩ := ih closed
                  exact ⟨error, fun name => by simp [walk, here, improper, stops]⟩

/-- What is read in a directory where nothing is. -/
theorem read_in_directory (tree : disk.IsTree) (named : disk.IsNamed)
    (directory : disk.node? path = some .directory)
    (missing : disk.node? (path ++ [name]) = none) :
    disk.read (path ++ [name]) = .error ((nameError? name).getD .notFound) := by
  rw [read_of_missing missing, walk_into tree named directory]
  cases nameError? name with
  | none => rfl
  | some error => rfl

/-- What is not there is seen to be missing, or cannot be looked for. -/
theorem probe_of_missing (missing : disk.node? path = none)
    (fails : disk.read path = .error error) :
    disk.probe path = if error = .notFound then .ok false else .error error := by
  rw [read_of_missing missing] at fails
  rw [probe, find, missing]
  cases walks : disk.walk [] path with
  | ok reached =>
      rw [walks] at fails
      cases fails
      rfl
  | error stops =>
      rw [walks] at fails
      cases fails
      cases error <;> rfl

/-- A name without a null character is improper just if it is too long. -/
theorem nameError?_of_plain (plain : '\x00' ∉ name.toList) :
    nameError? name = if maxName < name.utf8ByteSize then some .nameTooLong else none := by
  split
  · next long => exact nameError?_of_long plain long
  · next short => exact nameError?_eq_none.mpr ⟨plain, Nat.le_of_not_lt short⟩

end Disk

theorem Program.run_mapResult {Ask World α β : Type} {Answer : Ask → Type}
    (answer : (question : Ask) → World → Answer question × World) (image : α → β)
    (program : Program Ask Answer α) (world : World) :
    (program.mapResult image).run answer world =
      (image (program.run answer world).1, (program.run answer world).2) := by
  induction program generalizing world with
  | done value => rfl
  | ask question next ih => exact ih _ _

namespace Archive.Files

variable {base path : Path} {document : DocumentId} {host : Host} {files : Places}
  {stored : DocumentId → Option Snapshot}

/-! ## Directories to which saves lead -/

/-- The hosts to which saves lead that may fail.  A file that is being written when its save
fails may be left behind, with anything in it. -/
inductive Grown (base : Path) : Host → Prop where
  | start {host : Host} (fresh : Fresh base host) : Grown base host
  | save {host : Host} (grown : Grown base host) (attempt : Attempt)
      (possible : attempt.IsPossible) : Grown base (attempt.run base host).2.host
  | leftover {host : Host} {document : DocumentId} {number : Nat} {path : Path} {disk : Disk}
      (grown : Grown base host) (content : Bytes)
      (isDraft : IsDraft base document (host.nameOf number) path)
      (writes : host.disk.write path content = .ok disk) :
      Grown base { host with disk := disk }

/-- What is left behind under an unused name is no file of any document. -/
theorem Sound.leftover (sound : Sound base host stored) {number : Nat} {content : Bytes}
    {disk : Disk} (isDraft : IsDraft base document (host.nameOf number) path)
    (writes : host.disk.write path content = .ok disk) :
    Sound base { host with disk := disk } stored := by
  obtain ⟨⟨parent, name, equal, directory⟩, free, put⟩ := Disk.write_ok writes
  have still {other : DocumentId} {file : Path} (isFile : IsFile base other file) :
      disk.node? file = host.disk.node? file := by
    rw [put, if_neg]
    rintro rfl
    exact isDraft.not_isFile sound.supply isFile
  have named : disk.IsNamed := sound.orderly.named.write writes
  constructor
  case tree =>
    rw [equal] at free put
    exact sound.tree.of_put directory free put
  case supply => exact sound.supply
  case orderly =>
    refine sound.orderly.of_content named rfl fun found present => .inl ?_
    rwa [← still (.content found)]
  case keeps =>
    intro other
    refine (sound.keeps other).of_agrees ?_
    unfold spot
    split
    · next others found => exact ⟨still (.content found), still (.version found)⟩
    · exact ⟨rfl, rfl⟩

theorem Grown.sound (grown : Grown base host) : ∃ stored, Sound base host stored := by
  induction grown with
  | start fresh => exact ⟨_, fresh.sound⟩
  | save grown attempt possible ih =>
      obtain ⟨stored, sound⟩ := ih
      exact ⟨_, (sound.save possible).2.1⟩
  | leftover grown content isDraft writes ih =>
      obtain ⟨stored, sound⟩ := ih
      exact ⟨stored, sound.leftover isDraft writes⟩

/-! ## Two ways -/

/-- What is said of the version of a document by loading it. -/
def versionedByLoad (base : Path) (host : Host) (document : DocumentId) :
    Except ArchiveError (Option Nat) :=
  ((versionByLoad (load base) document).run Host.perform host).1

theorem versionedByLoad_eq : versionedByLoad base host document =
    (loaded base host document).map (Option.map Snapshot.version) := by
  rw [versionedByLoad, versionByLoad, Program.run_mapResult]
  rfl

/-- A document whose content could have a file while its version, with its longer name,
could not, in a workspace that has its directory. -/
structure IsOverlong (base : Path) (host : Host) (document : DocumentId) : Prop where
  served : refusal? document = none
  directory : host.disk.node? (base ++ [document.workspace]) = some .directory
  content : (contentName document.name).utf8ByteSize ≤ Disk.maxName
  version : Disk.maxName < (metaName document.name).utf8ByteSize

theorem nameError?_contentName (isName : Identifier.isPathName document.name = true) :
    Disk.nameError? (contentName document.name) =
      if Disk.maxName < (contentName document.name).utf8ByteSize then some .nameTooLong
      else none := by
  apply Disk.nameError?_of_plain
  rw [contentName, String.toList_append, List.mem_append]
  rintro (inName | inEnding)
  · exact null_not_mem_of_isPathName isName inName
  · exact absurd inEnding (by decide)

theorem nameError?_metaName (isName : Identifier.isPathName document.name = true) :
    Disk.nameError? (metaName document.name) =
      if Disk.maxName < (metaName document.name).utf8ByteSize then some .nameTooLong
      else none := by
  apply Disk.nameError?_of_plain
  rw [metaName, String.toList_append, List.mem_append]
  rintro (inName | inEnding)
  · exact null_not_mem_of_isPathName isName inName
  · exact absurd inEnding (by decide)

/-- The name of the version is the longer one. -/
theorem contentName_lt_metaName (name : String) :
    (contentName name).utf8ByteSize < (metaName name).utf8ByteSize := by
  have short : ".bin".utf8ByteSize = 4 := rfl
  have long : ".meta.json".utf8ByteSize = 10 := rfl
  rw [contentName, metaName, String.utf8ByteSize_append, String.utf8ByteSize_append, short, long]
  omega

theorem versioned_of_error (found : places base document = .ok files) {error : FileError}
    (reads : host.disk.read files.version = .error error) (real : error ≠ .notFound) :
    versioned base host document = .error (.io error.message) := by
  rw [versioned, version, found]
  dsimp only
  rw [readVersion, Program.andThen, Program.ask_bind, Program.run, Host.perform, reads]
  cases error with
  | notFound => exact absurd rfl real
  | _ => rfl

/-- Where nothing is kept, neither file can be read.  The reason is the same for both,
unless the name of the document is overlong. -/
theorem Sound.unreadable (sound : Sound base host stored)
    (found : places base document = .ok files)
    (content : host.disk.node? files.content = none)
    (version : host.disk.node? files.version = none) :
    (∃ error, host.disk.read files.content = .error error ∧
        host.disk.read files.version = .error error ∧ ¬ IsOverlong base host document) ∨
      host.disk.read files.content = .error .notFound ∧
        host.disk.read files.version = .error .nameTooLong ∧ IsOverlong base host document := by
  have isName := isPathName_of_places found
  have served : refusal? document = none := by
    cases refused : refusal? document with
    | none => rfl
    | some error =>
        have unplaced := places_of_refusal base document
        rw [refused] at unplaced
        cases found.symm.trans unplaced
  rw [places_ok found] at content version ⊢
  by_cases directory : host.disk.node? (base ++ [document.workspace]) = some .directory
  · have readsContent :=
      Disk.read_in_directory sound.tree sound.orderly.named directory content
    have readsVersion :=
      Disk.read_in_directory sound.tree sound.orderly.named directory version
    rw [nameError?_contentName isName] at readsContent
    rw [nameError?_metaName isName] at readsVersion
    by_cases long : Disk.maxName < (metaName document.name).utf8ByteSize
    · rw [if_pos long] at readsVersion
      by_cases longer : Disk.maxName < (contentName document.name).utf8ByteSize
      · rw [if_pos longer] at readsContent
        exact .inl ⟨_, readsContent, readsVersion,
          fun overlong => Nat.not_lt.mpr overlong.content longer⟩
      · rw [if_neg longer] at readsContent
        exact .inr ⟨readsContent, readsVersion, served, directory, Nat.le_of_not_lt longer, long⟩
    · have short : ¬ Disk.maxName < (contentName document.name).utf8ByteSize :=
        fun longer => long (Nat.lt_trans longer (contentName_lt_metaName document.name))
      rw [if_neg long] at readsVersion
      rw [if_neg short] at readsContent
      exact .inl ⟨_, readsContent, readsVersion, fun overlong => long overlong.version⟩
  · have stops : ∃ error, ∀ name,
        host.disk.walk [] (base ++ [document.workspace] ++ [name]) = .error error :=
      Disk.walk_stops directory
    obtain ⟨error, stops⟩ := stops
    refine .inl ⟨error, ?_, ?_, fun overlong => directory overlong.directory⟩
    · rw [Disk.read_of_missing content]
      simp only [stops]
    · rw [Disk.read_of_missing version]
      simp only [stops]

/-- Where nothing is kept, the version is looked for in vain as the content is. -/
theorem versioned_of_unreadable (found : places base document = .ok files)
    (content : host.disk.node? files.content = none) {error : FileError}
    (readsContent : host.disk.read files.content = .error error)
    (readsVersion : host.disk.read files.version = .error error) :
    versioned base host document = versionedByLoad base host document := by
  rw [versionedByLoad_eq, loaded_of_missing found readsContent]
  by_cases absent : error = .notFound
  · have tells : (readVersion files.version).run Host.perform host = (.ok none, host) := by
      rw [readVersion, Program.run, Host.perform, readsVersion, absent]
      rfl
    rw [versioned_of_missing found tells, Disk.probe_of_missing content readsContent,
      if_pos absent, if_pos absent]
    rfl
  · rw [versioned_of_error found readsVersion absent, if_neg absent]
    rfl

/-- In every directory to which saves lead, the version of a document is told from its own
file as it is told by loading the document, with the same refusals, just if the name of the
document is not overlong.  For an overlong name loading finds nothing, and the version is an
error. -/
theorem Grown.versioned_eq_iff (grown : Grown base host) (document : DocumentId) :
    (versioned base host document = versionedByLoad base host document ↔
      ¬ IsOverlong base host document) ∧
    (IsOverlong base host document →
      versionedByLoad base host document = .ok none ∧
        versioned base host document = .error (.io FileError.nameTooLong.message)) := by
  obtain ⟨stored, sound⟩ := grown.sound
  have keeps := sound.keeps document
  cases found : places base document with
  | error error =>
      have refused : ¬ IsOverlong base host document := by
        intro overlong
        obtain ⟨files, found'⟩ := places_of_served base overlong.served
        cases found.symm.trans found'
      refine ⟨⟨fun _ => refused, fun _ => ?_⟩, fun overlong => absurd overlong refused⟩
      rw [versionedByLoad_eq, loaded, load, versioned, version, found]
      rfl
  | ok files =>
      cases kept : stored document with
      | some snapshot =>
          rw [kept] at keeps
          have told := versioned_of_keeps sound.orderly sound.tree keeps
          have loads := loaded_of_keeps sound.orderly sound.tree keeps
          have proper : ¬ IsOverlong base host document := by
            intro overlong
            rw [spot, found] at keeps
            have present : host.disk.node? files.content ≠ none := by
              rw [show host.disk.node? files.content = _ from keeps.1]
              simp
            have short := (Disk.nameError?_eq_none.mp (sound.orderly.proper found present)).2
            exact Nat.not_lt.mpr short overlong.version
          refine ⟨⟨fun _ => proper, fun _ => ?_⟩, fun overlong => absurd overlong proper⟩
          rw [versionedByLoad_eq, told, loads]
          rfl
      | none =>
          rw [kept, spot, found] at keeps
          rcases sound.unreadable found keeps.1 keeps.2 with
            ⟨error, content, version, proper⟩ | ⟨content, version, overlong⟩
          · exact ⟨⟨fun _ => proper,
              fun _ => versioned_of_unreadable found keeps.1 content version⟩,
              fun overlong => absurd overlong proper⟩
          · have loads : versionedByLoad base host document = .ok none := by
              rw [versionedByLoad_eq, loaded_of_missing found content, if_pos rfl]
              rfl
            have told := versioned_of_error found version (by decide)
            refine ⟨⟨fun same => ?_, fun proper => absurd overlong proper⟩, fun _ => ⟨loads, told⟩⟩
            rw [loads, told] at same
            cases same

/-- A name of 246 letters. -/
def lengthy : DocumentId := ⟨"w", String.ofList (List.replicate 246 'x')⟩

/-- A workspace in which one document is stored and another was left half-written. -/
def littered : Host :=
  let stored := (Attempt.whole.run ["data"] blank).2.host
  { stored with disk := ⟨stored.disk.nodes.insert
      ["data", "w", contentDraft "e" (numbered 0)] (.file [9])⟩ }

theorem grown_littered : Grown ["data"] littered := by
  have grown := (Grown.start fresh_blank).save Attempt.whole (by decide +kernel)
  have isDraft : IsDraft ["data"] ⟨"w", "e"⟩ (numbered 0)
      ["data", "w", contentDraft "e" (numbered 0)] :=
    @IsDraft.content _ _ _ ⟨["data", "w"], ["data", "w", "e.bin"], ["data", "w", "e.meta.json"]⟩
      (by decide +kernel)
  have free : (Attempt.whole.run ["data"] blank).2.host.disk.find
      ["data", "w", contentDraft "e" (numbered 0)] = .ok none := by decide +kernel
  exact grown.leftover [9] isDraft (by rw [Disk.write, free])

/-- The version of a stored document is told as it is loaded.  For a name of 246 letters
loading finds nothing, and the version cannot be looked for. -/
theorem Grown.versioned_eq_iff_lengthy :
    Grown ["data"] littered ∧
      versioned ["data"] littered ⟨"w", "d"⟩ = versionedByLoad ["data"] littered ⟨"w", "d"⟩ ∧
      versionedByLoad ["data"] littered lengthy = .ok none ∧
      versioned ["data"] littered lengthy =
        .error (.io "File name too long (os error 36)") := by
  have overlong : IsOverlong ["data"] littered lengthy :=
    ⟨by decide +kernel, by decide +kernel, by decide +kernel, by decide +kernel⟩
  have proper : ¬ IsOverlong ["data"] littered ⟨"w", "d"⟩ :=
    fun overlong => absurd overlong.version (by decide +kernel)
  exact ⟨grown_littered, (grown_littered.versioned_eq_iff ⟨"w", "d"⟩).1.mpr proper,
    (grown_littered.versioned_eq_iff lengthy).2 overlong⟩

end Archive.Files

end Coedit
