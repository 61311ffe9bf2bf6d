import Coedit.Archive.Files
import Mathlib.Logic.Function.Basic

/-!
# Names of files

The files of different documents have different names, and a file that is being written
has a name that nobody else has, so that saves of different documents never meet.
-/

namespace Coedit.Archive.Files

variable {base path : Path} {document other : DocumentId} {files : Places}

/-! ## Names -/

/-- What stands behind the last dot of a name, last character first. -/
def ending (name : String) : List Char := name.toList.reverse.takeWhile (· != '.')

theorem ending_append {stem last : String} (dotless : '.' ∉ last.toList) :
    ending (stem ++ "." ++ last) = last.toList.reverse := by
  have dot : ".".toList = ['.'] := rfl
  have solid : ∀ char ∈ last.toList.reverse, (char != '.') = true := by
    intro char mem
    rw [bne_iff_ne]
    rintro rfl
    exact dotless (List.mem_reverse.mp mem)
  rw [ending, String.toList_append, String.toList_append, dot, List.reverse_append,
    List.reverse_append, List.takeWhile_append_of_pos solid]
  simp

theorem ending_contentName (name : String) :
    ending (contentName name) = "bin".toList.reverse := by
  have parts : contentName name = name ++ "." ++ "bin" := by
    rw [contentName, String.append_assoc]
    rfl
  rw [parts]
  exact ending_append (by decide)

theorem ending_metaName (name : String) : ending (metaName name) = "json".toList.reverse := by
  have parts : metaName name = name ++ ".meta" ++ "." ++ "json" := by
    rw [metaName, String.append_assoc, String.append_assoc]
    rfl
  rw [parts]
  exact ending_append (by decide)

/-- What a draft is called ends in the unused name. -/
theorem ending_withExtension {unused : String} (dotless : '.' ∉ unused.toList) (name : String) :
    ending (FileName.withExtension name ("tmp." ++ unused)) = unused.toList.reverse := by
  have parts : FileName.withExtension name ("tmp." ++ unused) =
      FileName.stem name ++ "." ++ "tmp" ++ "." ++ unused := by
    rw [FileName.withExtension]
    simp only [String.append_assoc]
    rfl
  rw [parts]
  exact ending_append dotless

theorem ending_contentDraft {unused : String} (dotless : '.' ∉ unused.toList) (name : String) :
    ending (contentDraft name unused) = unused.toList.reverse :=
  ending_withExtension dotless (contentName name)

theorem ending_metaDraft {unused : String} (dotless : '.' ∉ unused.toList) (name : String) :
    ending (metaDraft name unused) = unused.toList.reverse :=
  ending_withExtension dotless (metaName name)

/-- In the draft of a content the unused name stands where the ending of the content was. -/
theorem contentDraft_eq {name : String} (named : name ≠ "") (unused : String) :
    contentDraft name unused = name ++ ".tmp." ++ unused := by
  have parts : contentName name = name ++ "." ++ "bin" := by
    rw [contentName, String.append_assoc]
    rfl
  rw [contentDraft, FileName.withExtension, parts, FileName.stem_append named (by decide)]
  simp only [String.append_assoc]
  rfl

/-- In the draft of a version the unused name stands where its last ending was. -/
theorem metaDraft_eq (name unused : String) :
    metaDraft name unused = name ++ ".meta.tmp." ++ unused := by
  have parts : metaName name = name ++ ".meta" ++ "." ++ "json" := by
    rw [metaName, String.append_assoc, String.append_assoc]
    rfl
  have named : name ++ ".meta" ≠ "" := by
    intro blank
    have letters := congrArg String.toList blank
    rw [String.toList_append] at letters
    exact absurd (List.append_eq_nil_iff.mp letters).2 (by decide)
  rw [metaDraft, FileName.withExtension, parts, FileName.stem_append named (by decide)]
  simp only [String.append_assoc]
  rfl

/-- A supply of names that are used once, and for no document. -/
structure IsSupply (nameOf : Nat → String) : Prop where
  injective : Function.Injective nameOf
  dotless (number : Nat) : '.' ∉ (nameOf number).toList
  content (number : Nat) : nameOf number ≠ "bin"
  version (number : Nat) : nameOf number ≠ "json"

/-- Numbers are such names. -/
theorem isSupply_toString : IsSupply fun number => toString number := by
  have digits {number : Nat} {char : Char} (mem : char ∈ (toString number).toList) :
      char.isDigit := by
    rw [Nat.toString_eq_ofList_toDigits, String.toList_ofList] at mem
    exact Nat.isDigit_of_mem_toDigits (by decide) (by decide) mem
  constructor
  case injective =>
    intro number number' same
    have shown : Nat.toDigits 10 number = Nat.toDigits 10 number' := by
      have lists := congrArg String.toList same
      simpa only [Nat.toString_eq_ofList_toDigits, String.toList_ofList] using lists
    calc
      number = Nat.ofDigitChars 10 (Nat.toDigits 10 number) 0 :=
        Nat.ofDigitChars_ten_toDigits.symm
      _ = Nat.ofDigitChars 10 (Nat.toDigits 10 number') 0 := by rw [shown]
      _ = number' := Nat.ofDigitChars_ten_toDigits
  case dotless =>
    intro number mem
    exact absurd (digits mem) (by decide)
  case content =>
    intro number same
    have mem : 'b' ∈ (toString number).toList := by
      rw [same]
      decide
    exact absurd (digits mem) (by decide)
  case version =>
    intro number same
    have mem : 'j' ∈ (toString number).toList := by
      rw [same]
      decide
    exact absurd (digits mem) (by decide)

/-- Names of a supply behind something that is longer than the endings of files. -/
theorem IsSupply.behind {nameOf : Nat → String} (supply : IsSupply nameOf) {stem : String}
    (dotless : '.' ∉ stem.toList) (long : 4 < stem.utf8ByteSize) :
    IsSupply fun number => stem ++ nameOf number := by
  have longer (number : Nat) {short : String} (size : short.utf8ByteSize ≤ 4) :
      stem ++ nameOf number ≠ short := by
    rintro rfl
    rw [String.utf8ByteSize_append] at size
    omega
  constructor
  case injective =>
    intro number number' same
    exact supply.injective (String.append_right_inj stem |>.mp same)
  case dotless =>
    intro number mem
    rw [String.toList_append, List.mem_append] at mem
    exact mem.elim dotless (supply.dotless number)
  case content => exact fun number => longer number (by decide)
  case version => exact fun number => longer number (by decide)

/-! ## Places -/

/-- A file of a document. -/
inductive IsFile (base : Path) (document : DocumentId) : Path → Prop where
  | content {files : Places} (found : places base document = .ok files) :
      IsFile base document files.content
  | version {files : Places} (found : places base document = .ok files) :
      IsFile base document files.version

/-- A file of a document that is being written under an unused name. -/
inductive IsDraft (base : Path) (document : DocumentId) (unused : String) : Path → Prop where
  | content {files : Places} (found : places base document = .ok files) :
      IsDraft base document unused (files.directory ++ [contentDraft document.name unused])
  | version {files : Places} (found : places base document = .ok files) :
      IsDraft base document unused (files.directory ++ [metaDraft document.name unused])

theorem places_ok (found : places base document = .ok files) :
    files = ⟨base ++ [document.workspace],
      base ++ [document.workspace] ++ [contentName document.name],
      base ++ [document.workspace] ++ [metaName document.name]⟩ := by
  unfold places at found
  split at found
  · cases found
  · split at found
    · cases found
    · cases found
      rfl

theorem IsFile.ending (isFile : IsFile base document path) : ∃ name,
    path = base ++ [document.workspace] ++ [name] ∧
      (name = contentName document.name ∨ name = metaName document.name) := by
  cases isFile with
  | content found => exact ⟨_, by rw [places_ok found], .inl rfl⟩
  | version found => exact ⟨_, by rw [places_ok found], .inr rfl⟩

/-- A file that is being written is known by its unused name. -/
theorem IsDraft.ending {unused : String} (isDraft : IsDraft base document unused path)
    (dotless : '.' ∉ unused.toList) : ∃ name,
    path = base ++ [document.workspace] ++ [name] ∧
      Files.ending name = unused.toList.reverse := by
  cases isDraft with
  | content found =>
      exact ⟨_, by rw [places_ok found], ending_contentDraft dotless document.name⟩
  | version found => exact ⟨_, by rw [places_ok found], ending_metaDraft dotless document.name⟩

theorem IsFile.length_eq (isFile : IsFile base document path) : path.length = base.length + 2 := by
  obtain ⟨name, rfl, -⟩ := isFile.ending
  simp

theorem IsDraft.length_eq {unused : String} (isDraft : IsDraft base document unused path) :
    path.length = base.length + 2 := by
  cases isDraft with
  | content found =>
      rw [places_ok found]
      simp
  | version found =>
      rw [places_ok found]
      simp

/-- A document's content is in a file of its own. -/
theorem content_ne_version (found : places base document = .ok files) {others : Places}
    (otherFound : places base other = .ok others) : files.content ≠ others.version := by
  rw [places_ok found, places_ok otherFound]
  intro same
  have names := (List.append_inj' same rfl).2
  have last := congrArg Files.ending (List.cons.inj names).1
  rw [ending_contentName, ending_metaName] at last
  exact absurd last (by decide)

/-- A file belongs to one document. -/
theorem IsFile.functional (isFile : IsFile base document path) (again : IsFile base other path) :
    document = other := by
  obtain ⟨name, equal, named⟩ := isFile.ending
  obtain ⟨name', equal', named'⟩ := again.ending
  rw [equal] at equal'
  obtain ⟨directory, last⟩ := List.append_inj' equal' rfl
  have workspace : document.workspace = other.workspace :=
    (List.cons.inj (List.append_inj' directory rfl).2).1
  have same : name = name' := (List.cons.inj last).1
  have stems : document.name = other.name := by
    rcases named with rfl | rfl
    · rcases named' with rfl | rfl
      · exact String.append_left_inj _ |>.mp same
      · have ends := congrArg Files.ending same
        rw [ending_contentName, ending_metaName] at ends
        exact absurd ends (by decide)
    · rcases named' with rfl | rfl
      · have ends := congrArg Files.ending same
        rw [ending_contentName, ending_metaName] at ends
        exact absurd ends (by decide)
      · exact String.append_left_inj _ |>.mp same
  cases document
  cases other
  cases workspace
  cases stems
  rfl

/-- A file that is being written is no file of a document. -/
theorem IsDraft.not_isFile {nameOf : Nat → String} (supply : IsSupply nameOf) {number : Nat}
    (isDraft : IsDraft base document (nameOf number) path) : ¬ IsFile base other path := by
  intro isFile
  obtain ⟨name, equal, ends⟩ := isDraft.ending (supply.dotless number)
  obtain ⟨name', equal', named⟩ := isFile.ending
  rw [equal] at equal'
  have same : name = name' := (List.cons.inj (List.append_inj' equal' rfl).2).1
  rw [same] at ends
  rcases named with rfl | rfl
  · rw [ending_contentName, List.reverse_inj, String.toList_inj] at ends
    exact supply.content number ends.symm
  · rw [ending_metaName, List.reverse_inj, String.toList_inj] at ends
    exact supply.version number ends.symm

/-- Two files that are being written under different names are different files. -/
theorem IsDraft.functional {nameOf : Nat → String} (supply : IsSupply nameOf)
    {number number' : Nat} (isDraft : IsDraft base document (nameOf number) path)
    (again : IsDraft base other (nameOf number') path) : nameOf number = nameOf number' := by
  obtain ⟨name, equal, ends⟩ := isDraft.ending (supply.dotless number)
  obtain ⟨name', equal', ends'⟩ := again.ending (supply.dotless number')
  rw [equal] at equal'
  have same : name = name' := (List.cons.inj (List.append_inj' equal' rfl).2).1
  rw [same, ends'] at ends
  exact (String.toList_inj.mp (List.reverse_inj.mp ends)).symm

end Coedit.Archive.Files
