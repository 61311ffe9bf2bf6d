import Coedit.Configuration
import Coedit.Proofs.Archive.Reach
import Coedit.Proofs.Lease.Entries
import Mathlib.Data.List.Basic

/-!
# Admissible identifiers

An identifier that may come from outside takes part in the keys of locks and in the names of
files.  Different documents have different keys, which are no keys of workspaces; they are
never refused a file, and none of their files is one that the lease store uses, although
leases are kept below the documents unless another directory is given.
-/

namespace Coedit

/-! ## Keys -/

/-- Whether both identifiers of a document may come from outside. -/
structure DocumentId.IsAdmissible (document : DocumentId) : Prop where
  workspace : Identifier.isAdmissible document.workspace = true
  name : Identifier.isAdmissible document.name = true

namespace Identifier

theorem isAdmissible_iff {identifier : String} :
    isAdmissible identifier = true ↔
      isPathName identifier = true ∧ ':' ∉ identifier.toList := by
  rw [isAdmissible, Bool.and_eq_true, Bool.not_eq_true', List.contains_eq_mem,
    decide_eq_false_iff_not]

end Identifier

namespace Lock

variable {document other : DocumentId}

theorem toList_documentKey (document : DocumentId) :
    (documentKey document).toList =
      "doc:".toList ++ (document.workspace.toList ++ ':' :: document.name.toList) := by
  simp only [documentKey, String.toList_append, List.append_assoc]
  rfl

/-- The key of a document with admissible identifiers is nobody else's. -/
theorem documentKey_inj (admissible : document.IsAdmissible) :
    documentKey document = documentKey other ↔ document = other := by
  refine ⟨?_, fun same => same ▸ rfl⟩
  intro same
  have letters := congrArg String.toList same
  rw [toList_documentKey, toList_documentKey, List.append_cancel_left_eq] at letters
  obtain ⟨-, inWorkspace⟩ := Identifier.isAdmissible_iff.mp admissible.workspace
  obtain ⟨-, inName⟩ := Identifier.isAdmissible_iff.mp admissible.name
  obtain ⟨workspaces, -, names⟩ :=
    (List.append_cons_inj_of_notMem inWorkspace inName).mp letters
  obtain ⟨workspace, name⟩ := document
  obtain ⟨workspace', name'⟩ := other
  obtain rfl : workspace = workspace' := String.toList_inj.mp workspaces
  obtain rfl : name = name' := String.toList_inj.mp names
  rfl

theorem workspaceKey_injective : Function.Injective workspaceKey :=
  fun _ _ same => (String.append_right_inj _).mp same

/-- Keys of documents and keys of workspaces begin with different letters. -/
theorem documentKey_ne_workspaceKey (document : DocumentId) (workspace : String) :
    documentKey document ≠ workspaceKey workspace := by
  intro same
  have letters := congrArg (·.toList.head?) same
  rw [toList_documentKey, workspaceKey, String.toList_append] at letters
  cases letters

end Lock

/-! ## Directories -/

/-- The names in the text of a path.  Nothing between two slashes is no name, and a single
dot leads nowhere. -/
def Path.ofText (text : String) : Path :=
  ((text.toList.splitOn '/').filter fun name => name ≠ [] ∧ name ≠ ['.']).map String.ofList

namespace Configuration

/-- A path below a directory leads on from there. -/
theorem ofText_below (directory name : String) :
    Path.ofText (below directory name) = Path.ofText directory ++ Path.ofText name := by
  have slash : "/".toList = ['/'] := rfl
  have joined (front : String) : Path.ofText (front ++ "/" ++ name) =
      Path.ofText front ++ Path.ofText name := by
    unfold Path.ofText
    rw [String.toList_append, String.toList_append, slash, List.append_assoc,
      List.singleton_append, List.splitOn_append_cons_self, List.filter_append, List.map_append]
  unfold below
  split
  · next ends =>
      rw [Bool.or_eq_true, String.isEmpty_iff] at ends
      rcases ends with rfl | ends
      · rw [String.empty_append]
        rfl
      · rw [String.endsWith_eq_endsWith_toSlice, String.Slice.endsWith_string_iff] at ends
        obtain ⟨front, whole⟩ := ends
        obtain rfl : directory = String.ofList front ++ "/" := by
          rw [← String.toList_inj, String.toList_append, String.toList_ofList, whole,
            String.copy_toSlice]
        -- Nothing stands behind the last slash.
        have closed :
            Path.ofText (String.ofList front ++ "/") = Path.ofText (String.ofList front) := by
          unfold Path.ofText
          rw [String.toList_append, slash, List.splitOn_append_cons_self, List.filter_append]
          simp
        rw [closed, joined]
  · exact joined directory

/-- Unless another directory is given, leases are kept below the documents. -/
theorem ofText_resolvedLockDirectory {configuration : Configuration}
    (unset : configuration.lockDirectory = none) (environment : String → Option String) :
    Path.ofText (configuration.resolvedLockDirectory environment) =
      Path.ofText (configuration.resolvedDataDirectory environment) ++ ["locks"] := by
  rw [resolvedLockDirectory, unset, Option.getD_none, ofText_below]
  rfl

end Configuration

/-! ## Files of leases -/

namespace Lease.Files

variable {locks directory path : Path} {name : String}

/-- The files that a lease store uses in its directory. -/
inductive IsLeaseFile (locks : Path) : Path → Prop where
  | lock : IsLeaseFile locks (locks ++ [lockName])
  | entry (key : String) : IsLeaseFile locks (locks ++ [entryName key])
  | draft (key : String) : IsLeaseFile locks (locks ++ [draftName key])

theorem ending_lockName : Archive.Files.ending lockName = "kvlock".toList.reverse := by decide

theorem ending_entryName (key : String) :
    Archive.Files.ending (entryName key) = "json".toList.reverse := by
  have parts : entryName key =
      Bytes.toHex (Digest.sha256 (Bytes.ofText key)) ++ "." ++ "json" := by
    rw [entryName, String.append_assoc]
    rfl
  rw [parts]
  exact Archive.Files.ending_append (by decide)

theorem ending_draftName (key : String) :
    Archive.Files.ending (draftName key) = "tmp".toList.reverse := by
  have parts : draftName key = entryName key ++ "." ++ "tmp" := by
    rw [draftName_eq, String.append_assoc]
    rfl
  rw [parts]
  exact Archive.Files.ending_append (by decide)

theorem IsLeaseFile.named (isLease : IsLeaseFile locks (directory ++ [name])) :
    name = lockName ∨ (∃ key, name = entryName key) ∨ ∃ key, name = draftName key := by
  have last {file : String} (same : directory ++ [name] = locks ++ [file]) : name = file :=
    (List.cons.inj (List.append_inj' same rfl).2).1
  generalize whole : directory ++ [name] = path at isLease
  cases isLease with
  | lock => exact .inl (last whole)
  | entry key => exact .inr (.inl ⟨key, last whole⟩)
  | draft key => exact .inr (.inr ⟨key, last whole⟩)

theorem IsLeaseFile.ending_mem (isLease : IsLeaseFile locks (directory ++ [name])) :
    Archive.Files.ending name ∈
      ["kvlock".toList.reverse, "json".toList.reverse, "tmp".toList.reverse] := by
  rcases isLease.named with rfl | ⟨key, rfl⟩ | ⟨key, rfl⟩
  · rw [ending_lockName]
    simp
  · rw [ending_entryName]
    simp
  · rw [ending_draftName]
    simp

/-- Digits are no dots: the meta file of a document is called like no lease file. -/
theorem metaName_ne_entryName (name key : String) :
    Archive.Files.metaName name ≠ entryName key := by
  intro same
  have letters := congrArg String.toList same
  have parts : (Archive.Files.metaName name).toList =
      (name.toList ++ ".meta".toList) ++ ".json".toList := by
    rw [Archive.Files.metaName, String.toList_append, List.append_assoc]
    rfl
  rw [parts, toList_entryName, List.append_left_inj] at letters
  have dot : '.' ∈ (Digest.sha256 (Bytes.ofText key)).flatMap Bytes.digits := by
    rw [← letters]
    exact List.mem_append_right _ (by decide)
  obtain ⟨byte, -, digit⟩ := List.mem_flatMap.mp dot
  have every : ∀ low : Fin 16, Nat.digitChar low ≠ '.' := by decide
  simp only [Bytes.digits, List.mem_cons, List.not_mem_nil, or_false] at digit
  rcases digit with digit | digit
  · exact every ⟨byte.toNat / 16 % 16, Nat.mod_lt _ (by decide)⟩ digit.symm
  · exact every ⟨byte.toNat % 16, Nat.mod_lt _ (by decide)⟩ digit.symm

/-- Whether an operation is about files of leases, or about none. -/
def Within (locks : Path) (question : FileCall) : Prop :=
  ∀ path ∈ question.files, IsLeaseFile locks path

/-- Whether an operation leaves the files of leases alone. -/
def Outside (locks : Path) (question : FileCall) : Prop :=
  ∀ path ∈ question.files, ¬ IsLeaseFile locks path

end Lease.Files

namespace Archive.Files

variable {base locks path : Path} {document : DocumentId}

/-- No file of a document is one of leases, in whatever directory these are. -/
theorem Belongs.not_isLeaseFile (belongs : Belongs FileName.IsRandom base document path) :
    ¬ Lease.Files.IsLeaseFile locks path := by
  intro isLease
  rcases belongs with isFile | ⟨unused, random, isDraft⟩
  · obtain ⟨name, rfl, rfl | rfl⟩ := isFile.ending
    · have ends := isLease.ending_mem
      rw [ending_contentName] at ends
      exact absurd ends (by decide)
    · rcases isLease.named with same | ⟨key, same⟩ | ⟨key, same⟩
      · have ends := congrArg ending same
        rw [ending_metaName, Lease.Files.ending_lockName] at ends
        exact absurd ends (by decide)
      · exact Lease.Files.metaName_ne_entryName _ key same
      · have ends := congrArg ending same
        rw [ending_metaName, Lease.Files.ending_draftName] at ends
        exact absurd ends (by decide)
  · have dotless : '.' ∉ unused.toList := by
      intro mem
      rcases random.plain '.' mem with digit | letter
      · exact absurd digit (by decide)
      · exact absurd letter (by decide)
    obtain ⟨name, rfl, ends⟩ := isDraft.ending dotless
    -- A random name is longer than whatever a file of leases ends in.
    have short : ∀ last ∈ ["kvlock".toList.reverse, "json".toList.reverse, "tmp".toList.reverse],
        last.length < 36 := by decide
    have size := short _ isLease.ending_mem
    rw [ends, List.length_reverse] at size
    exact absurd random.long (Nat.not_le_of_lt size)

/-- Whatever is done with a document, no identifier of it is refused, and the files of leases
are left alone. -/
structure Lodged (base locks : Path) (document : DocumentId) : Prop where
  load : (load base document).Safe (FileCall.rules FileName.IsRandom (Lease.Files.Outside locks))
    (fun result _ => ∀ identifier, result ≠ .error (.invalidPath identifier)) ()
  version :
    (version base document).Safe (FileCall.rules FileName.IsRandom (Lease.Files.Outside locks))
      (fun result _ => ∀ identifier, result ≠ .error (.invalidPath identifier)) ()
  save (saved : Snapshot) :
    (save base document saved).Safe
      (FileCall.rules FileName.IsRandom (Lease.Files.Outside locks))
      (fun result _ => ∀ identifier, result ≠ .error (.invalidPath identifier)) ()

theorem lodged (admissible : document.IsAdmissible) : Lodged base locks document := by
  have found : ∃ files, places base document = .ok files := by
    have named := places_of_refusal base document
    unfold refusal? at named
    rw [(Identifier.isAdmissible_iff.mp admissible.workspace).1,
      (Identifier.isAdmissible_iff.mp admissible.name).1] at named
    exact named
  obtain ⟨files, found⟩ := found
  have leaves (question : FileCall)
      (concerns : Concerns FileName.IsRandom base document question) :
      Lease.Files.Outside locks question :=
    fun path mem => (concerns path mem).not_isLeaseFile
  refine ⟨FileProgram.safe_of_may (load_concerns found) leaves,
    FileProgram.safe_of_may (version_concerns found) leaves, ?_⟩
  intro saved
  refine FileProgram.safe_of_may ((save_concerns found saved).mono ?_) leaves
  rintro result ⟨⟩ fails identifier rfl
  cases fails _ rfl

end Archive.Files

/-! ## What a lease store touches -/

namespace Lease.Files

variable {α : Type} {directory path draft : Path}

theorem within_file {call : FileCall} (within : Within directory call) :
    (file call).Every fun question _ => Within directory question := by
  refine ⟨within, ?_⟩
  intro answer
  cases answer with
  | ok result => trivial
  | error error => trivial

theorem within_locked {work : FileProgram (Except StoreError α)}
    (within : work.Every fun question _ => Within directory question) :
    (locked directory work).Every fun question _ => Within directory question := by
  have held : IsLeaseFile directory (directory ++ [lockName]) := .lock
  exact Program.Every.andThen (within_file (List.forall_mem_singleton.mpr held)) fun _ =>
    Program.Every.andThen (within_file (List.forall_mem_singleton.mpr held)) fun _ => within

theorem within_readEntry (entry : IsLeaseFile directory path) :
    (readEntry path).Every fun question _ => Within directory question := by
  refine ⟨List.forall_mem_singleton.mpr entry, ?_⟩
  intro answer
  cases answer with
  | error error => cases error <;> trivial
  | ok content =>
      dsimp only
      split
      · trivial
      · trivial

theorem within_writeEntry (entry : IsLeaseFile directory path)
    (written : IsLeaseFile directory draft) (lease : Entry) :
    (writeEntry path draft lease).Every fun question _ => Within directory question := by
  refine Program.Every.andThen (within_file (List.forall_mem_singleton.mpr written)) fun _ => ?_
  refine Program.Every.andThen (within_file (List.forall_mem_singleton.mpr written)) fun _ => ?_
  exact within_file (List.forall_mem_cons.mpr ⟨written, List.forall_mem_singleton.mpr entry⟩)

theorem within_removeEntry (entry : IsLeaseFile directory path) :
    (removeEntry path).Every fun question _ => Within directory question := by
  refine ⟨List.forall_mem_singleton.mpr entry, ?_⟩
  intro answer
  cases answer with
  | ok done => trivial
  | error error => cases error <;> trivial

theorem within_timeLeft (now : Instant) (key : String) :
    (timeLeft directory now key).Every fun question _ => Within directory question :=
  within_locked (Program.Every.andThen (within_readEntry (.entry key)) fun _ => trivial)

/-- A lease store uses no files but those of its leases. -/
theorem within_program (now : Instant) (call : Call) :
    (program directory now call).Every fun question _ => Within directory question := by
  cases call with
  | claim key token ttl =>
      have enters : ((writeEntry (directory ++ [entryName key]) (directory ++ [draftName key])
          (.start token now ttl)).andThen fun _ => .done (.ok true)).Every
          fun question _ => Within directory question :=
        Program.Every.andThen (within_writeEntry (.entry key) (.draft key) _) fun _ => trivial
      refine within_locked (Program.Every.andThen (within_readEntry (.entry key)) ?_)
      intro found
      cases found with
      | none => exact enters
      | some entry =>
          dsimp only
          split
          · trivial
          · exact enters
  | revoke key token =>
      refine within_locked (Program.Every.andThen (within_readEntry (.entry key)) ?_)
      intro found
      cases found with
      | none => trivial
      | some entry =>
          dsimp only
          split
          · exact Program.Every.andThen (within_removeEntry (.entry key)) fun _ => trivial
          · trivial
  | check key => exact Program.Every.andThen (within_timeLeft now key) fun _ => trivial

end Lease.Files

/-! ## Identifiers from outside -/

/-- How a document fits beside all others and beside the leases. -/
structure DocumentId.Fits (base locks : Path) (document : DocumentId) : Prop where
  /-- Other documents have other keys. -/
  keys (other : DocumentId) :
    Lock.documentKey document = Lock.documentKey other ↔ document = other
  /-- Workspaces have other keys. -/
  workspaces (workspace : String) : Lock.documentKey document ≠ Lock.workspaceKey workspace
  /-- None of its files, those included that are being written, is one of leases. -/
  files {path : Path} : Archive.Files.Belongs FileName.IsRandom base document path →
    ¬ Lease.Files.IsLeaseFile locks path
  /-- Whatever is done with it, it is not refused and leaves the files of leases alone. -/
  lodged : Archive.Files.Lodged base locks document

/-- Identifiers that may come from outside fit wherever they are put.  Unless another
directory is given, leases are kept in a directory below the documents, where the lease store
uses no files but those of leases. -/
theorem DocumentId.IsAdmissible.fits {document : DocumentId} (admissible : document.IsAdmissible)
    {configuration : Configuration} (unset : configuration.lockDirectory = none)
    (environment : String → Option String) (start : Path) :
    let base := start ++ Path.ofText (configuration.resolvedDataDirectory environment)
    let locks := start ++ Path.ofText (configuration.resolvedLockDirectory environment)
    locks = base ++ ["locks"] ∧ document.Fits base locks ∧
      Function.Injective Lock.workspaceKey ∧
      ∀ now call, (Lease.Files.program locks now call).Every fun question _ =>
        Lease.Files.Within locks question := by
  intro base locks
  refine ⟨?_, ?_, Lock.workspaceKey_injective, Lease.Files.within_program⟩
  · calc
      locks = start ++ (Path.ofText (configuration.resolvedDataDirectory environment) ++
          ["locks"]) := by
        rw [← Configuration.ofText_resolvedLockDirectory unset environment]
      _ = base ++ ["locks"] := (List.append_assoc ..).symm
  · exact ⟨fun _ => Lock.documentKey_inj admissible, Lock.documentKey_ne_workspaceKey document,
      fun belongs => belongs.not_isLeaseFile, Archive.Files.lodged admissible⟩

/-- A document of a workspace that is called like the directory of the leases. -/
theorem DocumentId.IsAdmissible.fits_beside_leases :
    (⟨"locks", "a.b"⟩ : DocumentId).IsAdmissible ∧
      Configuration.standard.lockDirectory = none ∧
      Path.ofText (Configuration.standard.resolvedLockDirectory fun _ => none) =
        ["docsync", "locks"] ∧
      (⟨"locks", "a.b"⟩ : DocumentId).Fits ["docsync"] ["docsync", "locks"] := by
  have admissible : (⟨"locks", "a.b"⟩ : DocumentId).IsAdmissible := ⟨by decide, by decide⟩
  have unset : Configuration.standard.lockDirectory = none := rfl
  have documents : Path.ofText (Configuration.standard.resolvedDataDirectory fun _ => none) =
      ["docsync"] := by decide +kernel
  have leases : Path.ofText (Configuration.standard.resolvedLockDirectory fun _ => none) =
      ["docsync", "locks"] := by decide +kernel
  obtain ⟨-, fits, -⟩ := admissible.fits unset (fun _ => none) []
  rw [documents, leases] at fits
  exact ⟨admissible, unset, leases, fits⟩

end Coedit
