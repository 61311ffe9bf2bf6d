import Coedit.Proofs.Archive.Meta
import Coedit.Proofs.Archive.Names
import Coedit.Proofs.Program.Safe

/-!
# Documents in files

What loading and saving do to the two files of one document, told by what lies in them.
A save may stop half-way: then the content is saved, its version is not.
-/

namespace Coedit.Archive.Files

variable {base path : Path} {document other : DocumentId} {files : Places}

/-- What lies in the files of a document, and what has been written under the unused
name in hand. -/
structure Place where
  content : Option Node
  version : Option Node
  unused : Option String
  draft : Option (Path × Bytes)

namespace Place

/-- The place with a draft moved to one of its two files. -/
def settle (place : Place) (files : Places) (target : Path) (content : Bytes) : Place :=
  if target = files.content then { place with content := some (.file content), draft := none }
  else { place with version := some (.file content), draft := none }

/-- What lies in a file of the place. -/
def node (place : Place) (files : Places) (path : Path) : Option Node :=
  if path = files.content then place.content else place.version

/-- The same lies in the two files of the document. -/
def Agrees (place other : Place) : Prop :=
  place.content = other.content ∧ place.version = other.version

/-- What the version file says, if there is one. -/
def Tells (place : Place) : Option Nat → Prop
  | none => place.version = none
  | some version => ∃ bytes found,
      place.version = some (.file bytes) ∧ Meta.ofBytes? bytes = some found ∧
        found.version = version

/-- What is kept at a place.  Content without a version counts as version 0. -/
def Keeps (place : Place) : Option Snapshot → Prop
  | none => place.content = none ∧ place.version = none
  | some snapshot => place.content = some (.file snapshot.content) ∧
      ∃ version, place.Tells version ∧ version.getD 0 = snapshot.version

/-- What can be read from a place. -/
def stored (place : Place) : Option Snapshot :=
  match place.content, place.version with
  | some (.file content), some (.file bytes) =>
      some ⟨content, ((Meta.ofBytes? bytes).map (·.version)).getD 0⟩
  | some (.file content), _ => some ⟨content, 0⟩
  | _, _ => none

variable {place other : Place} {stored : Option Snapshot}

theorem Tells.functional {version version' : Option Nat} (told : place.Tells version)
    (again : place.Tells version') : version = version' := by
  cases version with
  | none =>
      cases version' with
      | none => rfl
      | some number =>
          obtain ⟨bytes, found, file, -⟩ := again
          rw [told] at file
          cases file
  | some number =>
      obtain ⟨bytes, found, file, read, rfl⟩ := told
      cases version' with
      | none =>
          rw [again] at file
          cases file
      | some number' =>
          obtain ⟨bytes', found', file', read', rfl⟩ := again
          rw [file] at file'
          cases file'
          rw [read] at read'
          cases read'
          rfl

theorem Agrees.symm (agrees : place.Agrees other) : other.Agrees place :=
  ⟨agrees.1.symm, agrees.2.symm⟩

theorem Keeps.stored_eq (keeps : place.Keeps stored) : place.stored = stored := by
  cases stored with
  | none => rw [Place.stored, keeps.1]
  | some snapshot =>
      obtain ⟨content, saved⟩ := snapshot
      obtain ⟨kept, number, told, equal⟩ := keeps
      cases equal
      cases number with
      | none =>
          rw [Place.stored, kept, told]
      | some number =>
          obtain ⟨bytes, found, file, read, rfl⟩ := told
          rw [Place.stored, kept, file]
          simp only [read, Option.map_some, Option.getD_some]

theorem Tells.of_version {number : Option Nat} (told : other.Tells number)
    (version : place.version = other.version) : place.Tells number := by
  cases number with
  | none => exact version.trans told
  | some number =>
      obtain ⟨bytes, found, file, read, equal⟩ := told
      exact ⟨bytes, found, version.trans file, read, equal⟩

theorem Keeps.of_agrees (keeps : other.Keeps stored) (agrees : place.Agrees other) :
    place.Keeps stored := by
  obtain ⟨content, version⟩ := agrees
  cases stored with
  | none => exact ⟨content.trans keeps.1, version.trans keeps.2⟩
  | some snapshot =>
      obtain ⟨kept, number, told, equal⟩ := keeps
      exact ⟨content.trans kept, number, told.of_version version, equal⟩

/-- New content beside an old version. -/
theorem Keeps.torn (keeps : other.Keeps stored) {content : Bytes}
    (written : place.content = some (.file content)) (version : place.version = other.version) :
    place.Keeps (some ⟨content, (stored.map (·.version)).getD 0⟩) := by
  refine ⟨written, ?_⟩
  cases stored with
  | none => exact ⟨none, version.trans keeps.2, rfl⟩
  | some snapshot =>
      obtain ⟨kept, number, told, equal⟩ := keeps
      exact ⟨number, told.of_version version, equal⟩

end Place

/-- What a save that stops half-way may leave: the content is saved, its version is not. -/
def Leaves (before : Option Snapshot) (saved : Snapshot) (after : Option Snapshot) : Prop :=
  after = before ∨ after = some ⟨saved.content, (before.map (·.version)).getD 0⟩

/-- What may be asked about one document. -/
inductive Asks (base : Path) (document : DocumentId) (place : Place) : FileCall → Prop where
  | makeDirectories {files : Places} (found : places base document = .ok files) :
      Asks base document place (.makeDirectories files.directory)
  | read {path : Path} (isFile : IsFile base document path) : Asks base document place (.read path)
  | probe {path : Path} (isFile : IsFile base document path) : Asks base document place (.probe path)
  | time {files : Places} (found : places base document = .ok files) :
      Asks base document place .time
  | unusedName {files : Places} (found : places base document = .ok files) :
      Asks base document place .unusedName
  | write {unused : String} {path : Path} {content : Bytes} (named : place.unused = some unused)
      (isDraft : IsDraft base document unused path) : Asks base document place (.write path content)
  | rename {source target : Path} {content : Bytes}
      (drafted : place.draft = some (source, content)) (isFile : IsFile base document target) :
      Asks base document place (.rename source target)

/-- What is answered, and what becomes of the place. -/
def Answers (files : Places) (place : Place) :
    (question : FileCall) → question.Answer → Place → Prop
  | .read path => fun answer after => after = place ∧
      (∀ content, answer = .ok content → place.node files path = some (.file content)) ∧
      (answer = .error .notFound → place.node files path = none)
  | .probe path => fun answer after => after = place ∧
      ∀ present, answer = .ok present → present = (place.node files path).isSome
  | .time => fun answer after => after = place ∧
      ∀ now, answer = .ok now → Timestamp.InCalendar now
  | .unusedName => fun answer after =>
      match answer with
      | .ok unused => after = { place with unused := some unused, draft := none }
      | .error _ => after = place
  | .write path content => fun answer after =>
      match answer with
      | .ok () => after = { place with draft := some (path, content) }
      | .error _ => after = place
  | .rename source target => fun answer after =>
      match answer with
      | .ok () => ∃ content, place.draft = some (source, content) ∧
          after = place.settle files target content
      | .error _ => after = place
  | _ => fun _ after => after = place

/-- What is asked and answered about one document. -/
def rules (base : Path) (document : DocumentId) :
    Program.Rules Place FileCall FileCall.Answer where
  asks := Asks base document
  answers place question answer after :=
    ∀ files, places base document = .ok files → Answers files place question answer after

/-! ## Programs -/

theorem readVersion_safe (found : places base document = .ok files) (place : Place) :
    (readVersion files.version).Safe (rules base document)
      (fun result after => after = place ∧ ∀ version, result = .ok version → place.Tells version)
      place := by
  refine ⟨.read (.version found), ?_⟩
  intro answer after answered
  obtain ⟨rfl, held, missing⟩ := answered files found
  have node : after.node files files.version = after.version :=
    if_neg (content_ne_version found found).symm
  rw [node] at held missing
  cases answer with
  | error error =>
      cases error with
      | notFound =>
          refine ⟨rfl, ?_⟩
          rintro version ⟨⟩
          exact missing rfl
      | _ => exact ⟨rfl, by rintro version ⟨⟩⟩
  | ok content =>
      dsimp only
      split
      · next told read =>
          refine ⟨rfl, ?_⟩
          rintro version ⟨⟩
          exact ⟨content, told, held content rfl, read, rfl⟩
      · exact ⟨rfl, by rintro version ⟨⟩⟩

theorem load_safe (document : DocumentId) (place : Place) :
    ((archive base).load document).Safe (rules base document)
      (fun result after => after = place ∧
        ∀ found stored, result = .ok found → place.Keeps stored → found = stored) place := by
  show (load base document).Safe _ _ _
  rw [load]
  split
  · exact ⟨rfl, by rintro found stored ⟨⟩⟩
  · next files found =>
      refine ⟨.read (.content found), ?_⟩
      intro answer after answered
      obtain ⟨rfl, held, missing⟩ := answered files found
      have node : after.node files files.content = after.content := if_pos rfl
      rw [node] at held missing
      cases answer with
      | error error =>
          cases error with
          | notFound =>
              refine ⟨rfl, ?_⟩
              rintro found stored ⟨⟩ keeps
              cases stored with
              | none => rfl
              | some snapshot =>
                  have absent := missing rfl
                  rw [keeps.1] at absent
                  cases absent
          | _ => exact ⟨rfl, by rintro found stored ⟨⟩⟩
      | ok content =>
          refine Program.Safe.andThen ((readVersion_safe found after).mono ?_)
          rintro result place ⟨rfl, told⟩
          cases result with
          | error error => exact ⟨rfl, by rintro found stored ⟨⟩⟩
          | ok version =>
              refine ⟨rfl, ?_⟩
              rintro found stored ⟨⟩ keeps
              have file := held content rfl
              cases stored with
              | none =>
                  rw [keeps.1] at file
                  cases file
              | some snapshot =>
                  obtain ⟨kept, version', told', number⟩ := keeps
                  rw [kept] at file
                  cases file
                  cases (told version rfl).functional told'
                  rw [number]

theorem version_safe (document : DocumentId) (place : Place) :
    ((archive base).version document).Safe (rules base document)
      (fun result after => after = place ∧
        ∀ found stored, result = .ok found → place.Keeps stored →
          found = stored.map (·.version)) place := by
  show (version base document).Safe _ _ _
  rw [version]
  split
  · exact ⟨rfl, by rintro found stored ⟨⟩⟩
  · next files found =>
      refine Program.Safe.andThen ((readVersion_safe found place).mono ?_)
      rintro result after ⟨rfl, told⟩
      cases result with
      | error error => exact ⟨rfl, by rintro found stored ⟨⟩⟩
      | ok version =>
          cases version with
          | some number =>
              refine ⟨rfl, ?_⟩
              rintro found stored ⟨⟩ keeps
              have told := told _ rfl
              cases stored with
              | none =>
                  obtain ⟨bytes, found, file, -⟩ := told
                  rw [keeps.2] at file
                  cases file
              | some snapshot =>
                  obtain ⟨kept, version', told', number⟩ := keeps
                  cases told.functional told'
                  exact congrArg some number
          | none =>
              refine ⟨.probe (.content found), ?_⟩
              intro answer place answered
              obtain ⟨rfl, present⟩ := answered files found
              have node : place.node files files.content = place.content := if_pos rfl
              rw [node] at present
              cases answer with
              | error error => exact ⟨rfl, by rintro found stored ⟨⟩⟩
              | ok there =>
                  refine ⟨rfl, ?_⟩
                  rintro found stored ⟨⟩ keeps
                  have there := present there rfl
                  cases stored with
                  | none =>
                      rw [keeps.1] at there
                      cases there
                      rfl
                  | some snapshot =>
                      obtain ⟨kept, version', told', number⟩ := keeps
                      rw [kept] at there
                      cases there
                      cases (told none rfl).functional told'
                      exact congrArg some number

/-- The failures of an operation; that nothing is there is an answer and no failure. -/
def Happens (question : FileCall) (fault : FileError) : Prop :=
  match question with
  | .read _ => fault ≠ .notFound
  | .probe _ => fault ≠ .notFound
  | _ => True

instance (question : FileCall) (fault : FileError) : Decidable (Happens question fault) :=
  match question with
  | .read _ => inferInstanceAs (Decidable (fault ≠ .notFound))
  | .probe _ => inferInstanceAs (Decidable (fault ≠ .notFound))
  | .makeDirectories _ => .isTrue trivial
  | .write _ _ => .isTrue trivial
  | .touch _ => .isTrue trivial
  | .rename _ _ => .isTrue trivial
  | .remove _ => .isTrue trivial
  | .lock _ => .isTrue trivial
  | .time => .isTrue trivial
  | .unusedName => .isTrue trivial

/-- The files that an operation moves to their places. -/
def moves : (question : FileCall) → question.Answer → List Path
  | .rename _ target, .ok () => [target]
  | _, _ => []

/-- What a save may ask, which can fail in every way, and what it is answered, with the
files that it moves. -/
def saving (base : Path) (document : DocumentId) :
    Program.Rules (Place × List Path) FileCall FileCall.Answer where
  asks state question := Asks base document state.1 question ∧ ∀ fault, Happens question fault
  answers state question answer after :=
    (rules base document).answers state.1 question answer after.1 ∧
      after.2 = state.2 ++ moves question answer

/-- A save does nothing that may not be done with a document. -/
theorem safe_of_saving {α : Type} {post : α → Place × List Path → Prop} {program : FileProgram α}
    {place : Place} {moved : List Path}
    (safe : program.Safe (saving base document) post (place, moved)) :
    program.Safe (rules base document) (fun value after => ∃ moved, post value (after, moved))
      place := by
  induction program generalizing place moved with
  | done value => exact ⟨moved, safe⟩
  | ask question next ih =>
      refine ⟨safe.1.1, ?_⟩
      intro answer after answered
      exact ih answer (safe.2 answer (after, moved ++ moves question answer) ⟨answered, rfl⟩)

/-- A file is written as a whole or not at all. -/
theorem writeFile_safe (found : places base document = .ok files) {draftOf : String → Path}
    (drafts : ∀ unused, IsDraft base document unused (draftOf unused))
    (isFile : IsFile base document path) (content : Bytes) (place : Place) (moved : List Path) :
    (writeFile draftOf path content).Safe (saving base document)
      (fun result after => match result with
        | .ok () => after.1.Agrees (place.settle files path content) ∧ after.2 = moved ++ [path]
        | .error _ => after.1.Agrees place ∧ after.2 = moved) (place, moved) := by
  refine ⟨⟨.unusedName found, fun _ => trivial⟩, ?_⟩
  rintro answer ⟨named, notes⟩ ⟨answered, noted⟩
  have named_eq := answered files found
  have unmoved : notes = moved := noted.trans (List.append_nil moved)
  cases answer with
  | error error =>
      cases named_eq
      exact ⟨⟨rfl, rfl⟩, unmoved⟩
  | ok unused =>
      cases named_eq
      refine ⟨⟨.write rfl (drafts unused), fun _ => trivial⟩, ?_⟩
      rintro answer ⟨written, notes'⟩ ⟨answered, noted'⟩
      have written_eq := answered files found
      have still : notes' = moved := (noted'.trans (List.append_nil notes)).trans unmoved
      cases answer with
      | error error =>
          cases written_eq
          exact ⟨⟨rfl, rfl⟩, still⟩
      | ok done =>
          cases written_eq
          refine ⟨⟨.rename rfl isFile, fun _ => trivial⟩, ?_⟩
          rintro answer ⟨after, last⟩ ⟨answered, noted⟩
          have renamed := answered files found
          cases answer with
          | error error =>
              cases renamed
              exact ⟨⟨rfl, rfl⟩, (noted.trans (List.append_nil notes')).trans still⟩
          | ok done =>
              obtain ⟨content', drafted, rfl⟩ := renamed
              cases drafted
              refine ⟨?_, noted.trans (congrArg (· ++ [path]) still)⟩
              unfold Place.settle
              split
              · exact ⟨rfl, rfl⟩
              · exact ⟨rfl, rfl⟩

/-- What a save makes of a place, told by the files that it moved. -/
def Saves (base : Path) (document : DocumentId) (saved : Snapshot) (place : Place) :
    Except ArchiveError Unit → Place → List Path → Prop
  | .ok (), after, moved => ∃ files now, places base document = .ok files ∧
      Timestamp.InCalendar now ∧ moved = [files.content, files.version] ∧
      after.content = some (.file saved.content) ∧
      after.version = some (.file (Bytes.ofText (Meta.render saved.version now)))
  | .error _, after, moved => moved = [] ∧ after.Agrees place ∨
      ∃ files, places base document = .ok files ∧ moved = [files.content] ∧
        after.content = some (.file saved.content) ∧ after.version = place.version

/-- The content is moved to its place first, its version next. -/
theorem save_saves (document : DocumentId) (saved : Snapshot) (place : Place) :
    (save base document saved).Safe (saving base document)
      (fun result after => Saves base document saved place result after.1 after.2) (place, []) := by
  rw [save]
  split
  · exact .inl ⟨rfl, rfl, rfl⟩
  · next files found =>
      refine ⟨⟨.makeDirectories found, fun _ => trivial⟩, ?_⟩
      rintro answer ⟨after, notes⟩ ⟨answered, noted⟩
      have same : after = place := answered files found
      cases same
      have unmoved : notes = [] := noted
      cases unmoved
      cases answer with
      | error error => exact .inl ⟨rfl, rfl, rfl⟩
      | ok done =>
          refine ⟨⟨.time found, fun _ => trivial⟩, ?_⟩
          rintro answer ⟨place, notes⟩ ⟨answered, noted⟩
          obtain ⟨rfl, clock⟩ := answered files found
          have unmoved : notes = [] := noted
          cases unmoved
          cases answer with
          | error error => exact .inl ⟨rfl, rfl, rfl⟩
          | ok now =>
              refine Program.Safe.andThen ((writeFile_safe found (fun unused => .content found)
                (.content found) saved.content place []).mono ?_)
              rintro result ⟨torn, notes⟩ first
              cases result with
              | error error => exact .inl ⟨first.2, first.1⟩
              | ok done =>
                  obtain ⟨⟨content, version⟩, noted⟩ := first
                  cases noted
                  rw [Place.settle, if_pos rfl] at content version
                  refine (writeFile_safe found (fun unused => .version found)
                    (.version found) _ torn _).mono ?_
                  rintro result ⟨after, notes⟩ second
                  cases result with
                  | error error =>
                      obtain ⟨⟨content', version'⟩, noted⟩ := second
                      exact .inr ⟨files, found, noted, content'.trans content,
                        version'.trans version⟩
                  | ok done =>
                      obtain ⟨⟨content', version'⟩, noted⟩ := second
                      rw [Place.settle, if_neg (content_ne_version found found).symm] at content' version'
                      exact ⟨files, now, found, clock now rfl, noted, content'.trans content,
                        version'⟩

theorem save_safe (document : DocumentId) (saved : Snapshot) (place : Place) :
    ((archive base).save document saved).Safe (rules base document)
      (fun result after => ∀ stored, place.Keeps stored →
        match result with
        | .ok () => saved.version < versionBound → after.Keeps (some saved)
        | .error _ => ∃ residue, Leaves stored saved residue ∧ after.Keeps residue) place := by
  refine (safe_of_saving (save_saves document saved place)).mono ?_
  rintro result after ⟨moved, saves⟩ stored keeps
  cases result with
  | ok done =>
      intro fits
      obtain ⟨files, now, -, within, -, content, version⟩ := saves
      exact ⟨content, some saved.version,
        ⟨_, _, version, Meta.ofBytes?_render fits within, rfl⟩, rfl⟩
  | error error =>
      rcases saves with ⟨-, agrees⟩ | ⟨files, -, -, content, version⟩
      · exact ⟨stored, .inl rfl, keeps.of_agrees agrees⟩
      · exact ⟨_, .inr rfl, keeps.torn content version⟩

end Coedit.Archive.Files
