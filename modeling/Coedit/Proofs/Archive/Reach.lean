import Coedit.Proofs.Archive.Loading
import Coedit.Proofs.Program.Safe

/-!
# What an archive reaches

Whatever is done with a document concerns its own files, and these lie directly in the
directory of its workspace.  An identifier that is no name of a path has no files: then
nothing is asked for at all.
-/

namespace Coedit

def ArchiveError.isIo : ArchiveError → Bool
  | .io _ => true
  | _ => false

/-- The files that an operation is about. -/
def FileCall.files : FileCall → List Path
  | .read path => [path]
  | .write path _ => [path]
  | .touch path => [path]
  | .rename source target => [source, target]
  | .remove path => [path]
  | .probe path => [path]
  | .lock path => [path]
  | _ => []

/-- Random names have at least thirty-six characters, all of them hexadecimal digits and
dashes. -/
structure FileName.IsRandom (name : String) : Prop where
  long : 36 ≤ name.toList.length
  plain : ∀ char ∈ name.toList, char.isDigit = true ∨ char ∈ "abcdef-".toList

/-! ## Programs that may ask for some files -/

/-- Whether an unused name, if one is given, is of some kind. -/
def FileCall.Gives (names : String → Prop) : (question : FileCall) → question.Answer → Prop
  | .unusedName => fun answer =>
      match answer with
      | .ok unused => names unused
      | .error _ => True
  | _ => fun _ => True

/-- What may be asked, where unused names are of some kind. -/
def FileCall.rules (names : String → Prop) (may : FileCall → Prop) :
    Program.Rules Unit FileCall FileCall.Answer where
  asks _ question := may question
  answers _ question answer _ := question.Gives names answer

namespace FileProgram

variable {α : Type} {names : String → Prop} {may may' : FileCall → Prop}
  {post : α → Unit → Prop} {program : FileProgram α}

/-- Who may ask for more need not do so. -/
theorem safe_of_may (safe : program.Safe (FileCall.rules names may) post ())
    (follows : ∀ question, may question → may' question) :
    program.Safe (FileCall.rules names may') post () := by
  induction program with
  | done value => exact safe
  | ask question next ih =>
      refine ⟨follows question safe.1, ?_⟩
      rintro answer ⟨⟩ answered
      exact ih answer (safe.2 answer () answered)

/-- How a program ends on a host. -/
theorem post_of_safe (safe : program.Safe (FileCall.rules (fun _ => True) may) post ())
    (host : Host) : post (program.run Host.perform host).1 () := by
  have gives (question : FileCall) (answer : question.Answer) :
      question.Gives (fun _ => True) answer := by
    unfold FileCall.Gives
    split
    · split
      · trivial
      · trivial
    · trivial
  have answered {state : Unit} {host : Host} {question : FileCall} (_ : True)
      (_ : (FileCall.rules (fun _ => True) may).asks state question) :
      ∃ after, (FileCall.rules (fun _ => True) may).answers state question
        (host.perform question).1 after ∧ True :=
    ⟨(), gives question _, trivial⟩
  obtain ⟨after, ends, -⟩ := safe.run answered (trivial : True)
  exact ends

end FileProgram

namespace Identifier

variable {identifier last : String}

/-- What is no separator of paths. -/
def isPlain (char : Char) : Bool := !(char == '/' || char == '\\' || char == '\x00')

theorem isPathName_iff : isPathName identifier = true ↔
    identifier ≠ "" ∧ identifier ≠ "." ∧ identifier ≠ ".." ∧
      ∀ char ∈ identifier.toList, isPlain char = true := by
  simp only [isPathName, isPlain, Bool.not_or, Bool.and_eq_true, Bool.not_eq_true',
    beq_eq_false_iff_ne, List.any_eq_false, ne_eq, and_assoc, Bool.or_eq_false_iff,
    Bool.not_eq_true]

/-- What starts like a name of a path and goes on without separators is one. -/
theorem isPathName_append (isName : isPathName identifier = true) (long : 2 < last.toList.length)
    (plain : ∀ char ∈ last.toList, isPlain char = true) :
    isPathName (identifier ++ last) = true := by
  have longer {short : String} (size : short.toList.length ≤ 2) : identifier ++ last ≠ short := by
    rintro rfl
    rw [String.toList_append, List.length_append] at size
    omega
  refine isPathName_iff.mpr ⟨longer (by decide), longer (by decide), longer (by decide), ?_⟩
  intro char mem
  rw [String.toList_append, List.mem_append] at mem
  rcases mem with mem | mem
  · exact (isPathName_iff.mp isName).2.2.2 char mem
  · exact plain char mem

end Identifier

namespace Archive.Files

variable {base path : Path} {document : DocumentId} {files : Places} {names : String → Prop}

/-! ## The files of a document -/

/-- The files of a document, those included that are written under names of some kind. -/
def Belongs (names : String → Prop) (base : Path) (document : DocumentId) (path : Path) : Prop :=
  IsFile base document path ∨ ∃ unused, names unused ∧ IsDraft base document unused path

/-- Whether an operation is about files of a document, or about none. -/
def Concerns (names : String → Prop) (base : Path) (document : DocumentId)
    (question : FileCall) : Prop :=
  ∀ path ∈ question.files, Belongs names base document path

theorem isPlain_of_isRandom {unused : String} (random : FileName.IsRandom unused) {char : Char}
    (mem : char ∈ unused.toList) : Identifier.isPlain char = true := by
  rcases random.plain char mem with digit | letter
  · unfold Identifier.isPlain
    rw [Bool.not_eq_true', Bool.or_eq_false_iff, Bool.or_eq_false_iff, beq_eq_false_iff_ne,
      beq_eq_false_iff_ne, beq_eq_false_iff_ne]
    refine ⟨⟨?_, ?_⟩, ?_⟩
    all_goals
      rintro rfl
      cases digit
  · have every : "abcdef-".toList.all Identifier.isPlain = true := by decide
    exact List.all_eq_true.mp every char letter

/-- The files of a document lie directly in the directory of its workspace. -/
theorem Belongs.inside (belongs : Belongs names base document path)
    (random : ∀ unused, names unused → FileName.IsRandom unused) :
    ∃ name, path = base ++ [document.workspace] ++ [name] ∧
      Identifier.isPathName name = true := by
  have ended (last : String) {unused : String} (random : FileName.IsRandom unused)
      (plain : last.toList.all Identifier.isPlain = true) :
      2 < (last ++ unused).toList.length ∧
        ∀ char ∈ (last ++ unused).toList, Identifier.isPlain char = true := by
    rw [String.toList_append, List.length_append]
    refine ⟨Nat.lt_of_lt_of_le (by decide) (Nat.le_add_left_of_le random.long), ?_⟩
    intro char mem
    rcases List.mem_append.mp mem with mem | mem
    · exact List.all_eq_true.mp plain char mem
    · exact isPlain_of_isRandom random mem
  rcases belongs with isFile | ⟨unused, named, isDraft⟩
  · cases isFile with
    | content found =>
        refine ⟨_, by rw [places_ok found], ?_⟩
        exact Identifier.isPathName_append (isPathName_of_places found) (by decide)
          (List.all_eq_true.mp (by decide))
    | version found =>
        refine ⟨_, by rw [places_ok found], ?_⟩
        exact Identifier.isPathName_append (isPathName_of_places found) (by decide)
          (List.all_eq_true.mp (by decide))
  · cases isDraft with
    | content found =>
        refine ⟨_, by rw [places_ok found], ?_⟩
        rw [contentDraft_eq (ne_empty_of_isPathName (isPathName_of_places found)),
          String.append_assoc]
        obtain ⟨long, plain⟩ := ended ".tmp." (random unused named) (by decide)
        exact Identifier.isPathName_append (isPathName_of_places found) long plain
    | version found =>
        refine ⟨_, by rw [places_ok found], ?_⟩
        rw [metaDraft_eq, String.append_assoc]
        obtain ⟨long, plain⟩ := ended ".meta.tmp." (random unused named) (by decide)
        exact Identifier.isPathName_append (isPathName_of_places found) long plain

/-! ## Programs -/

/-- Why an identifier of a document is refused, if one is. -/
def refusal? (document : DocumentId) : Option ArchiveError :=
  if !Identifier.isPathName document.workspace then some (.invalidPath document.workspace)
  else if !Identifier.isPathName document.name then some (.invalidPath document.name)
  else none

/-- A document has its places unless one of its identifiers is refused. -/
theorem places_of_refusal (base : Path) (document : DocumentId) :
    match refusal? document with
    | some error => places base document = .error error
    | none => ∃ files, places base document = .ok files := by
  unfold refusal? places
  cases Identifier.isPathName document.workspace with
  | false => rfl
  | true =>
      cases Identifier.isPathName document.name with
      | false => rfl
      | true => exact ⟨_, rfl⟩

/-- A file is written and moved under the names of the document. -/
theorem writeFile_concerns {draftOf : String → Path}
    (drafts : ∀ unused, IsDraft base document unused (draftOf unused))
    (isFile : IsFile base document path) (content : Bytes) :
    (writeFile draftOf path content).Safe (FileCall.rules names (Concerns names base document))
      (fun result _ => ∀ error, result = .error error → error.isIo = true) () := by
  have fails {α : Type} (detail : String) (error : ArchiveError)
      (equal : (.error (.io detail) : Except ArchiveError α) = .error error) :
      error.isIo = true := by
    cases equal
    rfl
  refine ⟨List.forall_mem_nil _, ?_⟩
  rintro answer ⟨⟩ random
  cases answer with
  | error error => exact fails _
  | ok unused =>
      have draft : Belongs names base document (draftOf unused) :=
        .inr ⟨unused, random, drafts unused⟩
      refine ⟨List.forall_mem_singleton.mpr draft, ?_⟩
      rintro answer ⟨⟩ -
      cases answer with
      | error error => exact fails _
      | ok done =>
          refine ⟨List.forall_mem_cons.mpr ⟨draft, List.forall_mem_singleton.mpr (.inl isFile)⟩, ?_⟩
          rintro answer ⟨⟩ -
          cases answer with
          | error error => exact fails _
          | ok done => rintro error ⟨⟩

theorem save_concerns (found : places base document = .ok files) (saved : Snapshot) :
    (save base document saved).Safe (FileCall.rules names (Concerns names base document))
      (fun result _ => ∀ error, result = .error error → error.isIo = true) () := by
  rw [save, found]
  refine ⟨List.forall_mem_nil _, ?_⟩
  rintro answer ⟨⟩ -
  cases answer with
  | error error =>
      rintro error ⟨⟩
      rfl
  | ok done =>
      refine ⟨List.forall_mem_nil _, ?_⟩
      rintro answer ⟨⟩ -
      cases answer with
      | error error =>
          rintro error ⟨⟩
          rfl
      | ok now =>
          refine Program.Safe.andThen ((writeFile_concerns (fun unused => .content found)
            (.content found) saved.content).mono ?_)
          rintro result ⟨⟩ fails
          cases result with
          | error error =>
              rintro error' ⟨⟩
              exact fails error rfl
          | ok done =>
              exact writeFile_concerns (fun unused => .version found) (.version found) _

/-- Reading the version of a document concerns its files, and no identifier is refused. -/
theorem readVersion_concerns (found : places base document = .ok files) :
    (readVersion files.version).Safe (FileCall.rules names (Concerns names base document))
      (fun result _ => ∀ identifier, result ≠ .error (.invalidPath identifier)) () := by
  refine ⟨List.forall_mem_singleton.mpr (.inl (.version found)), ?_⟩
  rintro answer ⟨⟩ -
  cases answer with
  | error error =>
      cases error with
      | _ => rintro identifier ⟨⟩
  | ok content =>
      dsimp only
      split
      · rintro identifier ⟨⟩
      · rintro identifier ⟨⟩

theorem load_concerns (found : places base document = .ok files) :
    (load base document).Safe (FileCall.rules names (Concerns names base document))
      (fun result _ => ∀ identifier, result ≠ .error (.invalidPath identifier)) () := by
  rw [load, found]
  refine ⟨List.forall_mem_singleton.mpr (.inl (.content found)), ?_⟩
  rintro answer ⟨⟩ -
  cases answer with
  | error error =>
      cases error with
      | _ => rintro identifier ⟨⟩
  | ok content =>
      refine Program.Safe.andThen ((readVersion_concerns found).mono ?_)
      rintro result ⟨⟩ refuses
      cases result with
      | error error =>
          rintro identifier ⟨⟩
          exact refuses identifier rfl
      | ok version => rintro identifier ⟨⟩

theorem version_concerns (found : places base document = .ok files) :
    (version base document).Safe (FileCall.rules names (Concerns names base document))
      (fun result _ => ∀ identifier, result ≠ .error (.invalidPath identifier)) () := by
  rw [version, found]
  refine Program.Safe.andThen ((readVersion_concerns found).mono ?_)
  rintro result ⟨⟩ refuses
  cases result with
  | error error =>
      rintro identifier ⟨⟩
      exact refuses identifier rfl
  | ok version =>
      cases version with
      | some number => rintro identifier ⟨⟩
      | none =>
          refine ⟨List.forall_mem_singleton.mpr (.inl (.content found)), ?_⟩
          rintro answer ⟨⟩ -
          cases answer with
          | error error => rintro identifier ⟨⟩
          | ok present => rintro identifier ⟨⟩

end Archive.Files

end Coedit
