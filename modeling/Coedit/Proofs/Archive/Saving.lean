import Coedit.Proofs.Archive.Loading

/-!
# Saves that fail

A save moves two files to their places, the content first, and any operation on the way can
fail.  Each file is then as it was or as it was to be, and what can be loaded is told by
which of them were moved: the version of a document is that of an older save just if the
save that moved its content failed before it moved the version.
-/

namespace Coedit.Archive.Files

variable {base : Path} {document : DocumentId} {host : Host}
  {stored : DocumentId → Option Snapshot}

/-! ## Saves -/

/-- A host whose operations fail as foretold, with the files that are moved on it. -/
structure Trial where
  host : Host
  /-- The failures of the coming operations, one after the other. -/
  failures : List (Option FileError)
  moved : List Path

/-- Answer one question, or fail. -/
def Trial.answer (question : FileCall) (trial : Trial) : question.Answer × Trial :=
  let (answer, host) := Host.attempt trial.failures.head?.join question trial.host
  (answer, ⟨host, trial.failures.tail, trial.moved ++ moves question answer⟩)

/-- A save of a document, the time at which it is made, and the failures that it meets. -/
structure Attempt where
  document : DocumentId
  saved : Snapshot
  now : Instant
  failures : List (Option FileError)

namespace Attempt

/-- How a save ends, and what it leaves. -/
def run (base : Path) (attempt : Attempt) (host : Host) : Except ArchiveError Unit × Trial :=
  (save base attempt.document attempt.saved).run Trial.answer
    ⟨{ host with now := attempt.now }, attempt.failures, []⟩

/-- What is kept of the document after a save that has moved these files. -/
def leaves (attempt : Attempt) (before : Option Snapshot) : List Path → Option Snapshot
  | [] => before
  | [_] => some ⟨attempt.saved.content, (before.map (·.version)).getD 0⟩
  | _ => some attempt.saved

/-- Saves of versions that can be stored, in a time that has dates. -/
structure IsPossible (attempt : Attempt) : Prop where
  fits : attempt.saved.version < versionBound
  within : Timestamp.InCalendar attempt.now

instance (attempt : Attempt) : Decidable attempt.IsPossible :=
  decidable_of_iff
    (attempt.saved.version < versionBound ∧ Timestamp.InCalendar attempt.now)
    ⟨fun possible => ⟨possible.1, possible.2⟩, fun possible => ⟨possible.fits, possible.within⟩⟩

end Attempt

/-- A host on which nothing has been saved below a directory. -/
structure Fresh (base : Path) (host : Host) : Prop where
  tree : host.disk.IsTree
  named : host.disk.IsNamed
  supply : IsSupply host.nameOf
  long (number : Nat) : 36 ≤ (host.nameOf number).utf8ByteSize
  clear {document : DocumentId} {files : Places} (found : places base document = .ok files) :
    host.disk.node? files.content = none ∧ host.disk.node? files.version = none

/-- The hosts to which saves lead that may fail, and what they leave of each document. -/
inductive Reached (base : Path) : Host → (DocumentId → Option Snapshot) → Prop where
  | start {host : Host} (fresh : Fresh base host) : Reached base host fun _ => none
  | save {host : Host} {stored : DocumentId → Option Snapshot} (reached : Reached base host stored)
      (attempt : Attempt) (possible : attempt.IsPossible) :
      Reached base (attempt.run base host).2.host
        (Function.update stored attempt.document
          (attempt.leaves (stored attempt.document) (attempt.run base host).2.moved))

/-! ## What a save leaves -/

/-- The files of documents keep this, and can be read. -/
structure Sound (base : Path) (host : Host) (stored : DocumentId → Option Snapshot) : Prop where
  tree : host.disk.IsTree
  supply : IsSupply host.nameOf
  orderly : Orderly base host
  keeps (document : DocumentId) : (spot base host document).Keeps (stored document)

theorem Fresh.sound (fresh : Fresh base host) : Sound base host fun _ => none where
  tree := fresh.tree
  supply := fresh.supply
  orderly := ⟨fresh.named, fresh.long, fun found present => absurd (fresh.clear found).1 present⟩
  keeps document := by
    unfold spot
    split
    · next files found => exact fresh.clear found
    · exact ⟨rfl, rfl⟩

/-- How a save ends that has moved these files. -/
def Ends (base : Path) (document : DocumentId) : Except ArchiveError Unit → List Path → Prop
  | .ok (), moved => ∃ files, places base document = .ok files ∧
      moved = [files.content, files.version]
  | .error _, moved => moved = [] ∨
      ∃ files, places base document = .ok files ∧ moved = [files.content]

namespace Place

/-- What a save leaves is told by the files that it has moved. -/
theorem Keeps.saves {attempt : Attempt} {place after : Place} {before : Option Snapshot}
    {result : Except ArchiveError Unit} {moved : List Path} (keeps : place.Keeps before)
    (fits : attempt.saved.version < versionBound)
    (saves : Saves base attempt.document attempt.saved place result after moved) :
    Ends base attempt.document result moved ∧ after.Keeps (attempt.leaves before moved) := by
  cases result with
  | ok done =>
      obtain ⟨files, now, found, within, rfl, content, version⟩ := saves
      exact ⟨⟨files, found, rfl⟩, content, some attempt.saved.version,
        ⟨_, _, version, Meta.ofBytes?_render fits within, rfl⟩, rfl⟩
  | error error =>
      rcases saves with ⟨rfl, agrees⟩ | ⟨files, found, rfl, content, version⟩
      · exact ⟨.inl rfl, keeps.of_agrees agrees⟩
      · exact ⟨.inr ⟨files, found, rfl⟩, keeps.torn content version⟩

end Place

namespace Sound

variable {attempt : Attempt}

/-- A save leaves of its document what its moves say, of all others what there was, and
makes directories at most. -/
theorem save (sound : Sound base host stored) (possible : attempt.IsPossible) :
    Ends base attempt.document (attempt.run base host).1 (attempt.run base host).2.moved ∧
      Sound base (attempt.run base host).2.host
        (Function.update stored attempt.document
          (attempt.leaves (stored attempt.document) (attempt.run base host).2.moved)) ∧
      Disk.Opens (base.length + 2) host.disk (attempt.run base host).2.host.disk := by
  let spots := spot base host
  let matching (state : Place × List Path) (trial : Trial) : Prop :=
    Holds base (Function.update spots attempt.document state.1) trial.host ∧
      Orderly base trial.host ∧ Disk.Opens (base.length + 2) host.disk trial.host.disk ∧
      trial.moved = state.2
  have answered {state : Place × List Path} {trial : Trial} {question : FileCall}
      (fits : matching state trial)
      (asks : (saving base attempt.document).asks state question) :
      ∃ after, (saving base attempt.document).answers state question
          (trial.answer question).1 after ∧ matching after (trial.answer question).2 := by
    obtain ⟨holds, orderly, opens, moved⟩ := fits
    obtain ⟨asks, fails⟩ := asks
    have place : Function.update spots attempt.document state.1 attempt.document = state.1 :=
      Function.update_self ..
    rw [← place] at asks
    rw [Trial.answer]
    cases failure : trial.failures.head?.join with
    | some fault =>
        refine ⟨(state.1, state.2 ++ moves question (.error fault)), ⟨?_, rfl⟩, holds, orderly,
          opens, congrArg (· ++ moves question (.error fault)) moved⟩
        have unchanged := failed asks (fails fault)
        rwa [place] at unchanged
    | none =>
        obtain ⟨after, answers, holds'⟩ := performed holds asks
        obtain ⟨orderly', opens'⟩ := orderly.performed holds asks
        rw [Function.update_idem] at holds'
        rw [place] at answers
        exact ⟨(after, state.2 ++ moves question (trial.host.perform question).1),
          ⟨answers, rfl⟩, holds', orderly', opens.trans opens',
          congrArg (· ++ moves question (trial.host.perform question).1) moved⟩
  let begun : Host := { host with now := attempt.now }
  have holds : Holds base (spot base begun) begun :=
    holds_spot sound.tree sound.supply possible.within
  have begins : matching (spots attempt.document, [])
      ⟨begun, attempt.failures, []⟩ := by
    refine ⟨?_, ⟨sound.orderly.named, sound.orderly.long, sound.orderly.proper⟩, .refl _ _, rfl⟩
    rw [Function.update_eq_self]
    exact holds
  obtain ⟨⟨place, moved⟩, saves, holds, orderly, opens, noted⟩ :=
    (save_saves attempt.document attempt.saved (spots attempt.document)).run answered begins
  have moved_eq : (attempt.run base host).2.moved = moved := noted
  obtain ⟨ends, keeps⟩ := (sound.keeps attempt.document).saves possible.fits saves
  rw [moved_eq]
  refine ⟨ends, ⟨holds.tree, holds.supply, orderly, ?_⟩, opens⟩
  intro document
  refine Place.Keeps.of_agrees ?_ (holds.agrees document)
  by_cases same : document = attempt.document
  · rw [same, Function.update_self, Function.update_self]
    exact keeps
  · rw [Function.update_of_ne same, Function.update_of_ne same]
    exact sound.keeps document

/-- Just what is kept is loaded. -/
theorem loaded_iff (sound : Sound base host stored) {found : Snapshot} :
    loaded base host document = .ok (some found) ↔ stored document = some found := by
  have keeps := sound.keeps document
  cases kept : stored document with
  | some snapshot =>
      rw [kept] at keeps
      rw [loaded_of_keeps sound.orderly sound.tree keeps]
      simp
  | none =>
      rw [kept] at keeps
      refine ⟨fun loads => ?_, by rintro ⟨⟩⟩
      cases places_eq : places base document with
      | error error =>
          rw [loaded, load, places_eq] at loads
          cases loads
      | ok files =>
          rw [spot, places_eq] at keeps
          have missing : host.disk.node? files.content = none := keeps.1
          have reads := Disk.read_of_missing missing
          split at reads
          all_goals
            rw [loaded_of_missing places_eq reads] at loads
            split at loads <;> cases loads

end Sound

theorem Reached.sound (reached : Reached base host stored) : Sound base host stored := by
  induction reached with
  | start fresh => exact fresh.sound
  | save reached attempt possible ih => exact (ih.save possible).2.1

/-- What is loaded of a document is the same on two hosts, or nothing was there and the
document has turned out to have a name with which no file can be read. -/
def LoadsAlike (base : Path) (host after : Host) (document : DocumentId) : Prop :=
  loaded base after document = loaded base host document ∨
    loaded base host document = .ok none ∧
      ∃ files, places base document = .ok files ∧ ∃ name ∈ files.content, ∃ error,
        Disk.nameError? name = some error ∧
          loaded base after document = .error (.io error.message)

/-- As long as the same is kept of a document, the same is loaded. -/
theorem Sound.loadsAlike (sound : Sound base host stored) {after : Host}
    {stored' : DocumentId → Option Snapshot} (sound' : Sound base after stored')
    (opens : Disk.Opens (base.length + 2) host.disk after.disk)
    (same : stored' document = stored document) : LoadsAlike base host after document := by
  have keeps := sound.keeps document
  have keeps' := sound'.keeps document
  rw [same] at keeps'
  cases kept : stored document with
  | some snapshot =>
      rw [kept] at keeps keeps'
      refine .inl ?_
      rw [loaded_of_keeps sound.orderly sound.tree keeps,
        loaded_of_keeps sound'.orderly sound'.tree keeps']
  | none =>
      rw [kept] at keeps keeps'
      cases found : places base document with
      | error error =>
          refine .inl ?_
          rw [loaded, loaded, load, found]
          rfl
      | ok files =>
          rw [spot, found] at keeps keeps'
          have missing : host.disk.node? files.content = none := keeps.1
          have still : after.disk.node? files.content = none := keeps'.1
          have depth : files.content.length ≤ base.length + 2 := by
            rw [(IsFile.content found).length_eq]
          have fails : ∃ error, host.disk.read files.content = .error error := by
            rw [Disk.read_of_missing missing]
            split
            · exact ⟨_, rfl⟩
            · exact ⟨_, rfl⟩
          obtain ⟨error, fails⟩ := fails
          rcases opens.read sound.tree depth missing still with
            alike | ⟨absent, name, mem, error, improper, fails'⟩
          · rw [fails] at alike
            refine .inl ?_
            rw [loaded_of_missing found alike, loaded_of_missing found fails]
          · refine .inr ⟨?_, files, found, name, mem, error, improper, ?_⟩
            · rw [loaded_of_missing found absent, if_pos rfl]
            · rw [loaded_of_missing found fails', if_neg]
              rintro rfl
              exact Disk.nameError?_ne_notFound improper

/-! ## Saves in two steps -/

/-- Whatever operation fails, each file of a document is saved as a whole or not at all.
What is loaded has the content of the last save that moved the content to its place and the
version of the last save that moved the version: a save that succeeds is loaded as it is, a
save that fails leaves what was loaded before, unless it has moved the content and left the
version. -/
theorem Reached.saved_file_by_file (reached : Reached base host stored) (attempt : Attempt)
    (possible : attempt.IsPossible) :
    (∀ document found,
      loaded base host document = .ok (some found) ↔ stored document = some found) ∧
    match attempt.run base host with
    | (.ok (), trial) => loaded base trial.host attempt.document = .ok (some attempt.saved)
    | (.error _, trial) =>
        trial.moved = [] ∧ LoadsAlike base host trial.host attempt.document ∨
        (∃ files, places base attempt.document = .ok files ∧ trial.moved = [files.content]) ∧
          loaded base trial.host attempt.document =
            .ok (some ⟨attempt.saved.content,
              ((stored attempt.document).map (·.version)).getD 0⟩) := by
  have sound := reached.sound
  obtain ⟨ends, sound', opens⟩ := sound.save possible
  refine ⟨fun document found => sound.loaded_iff, ?_⟩
  generalize attempt.run base host = run at ends sound' opens
  obtain ⟨result, trial⟩ := run
  cases result with
  | ok done =>
      obtain ⟨files, -, moved⟩ := ends
      refine sound'.loaded_iff.mpr ?_
      rw [Function.update_self, show trial.moved = _ from moved]
      rfl
  | error error =>
      rcases ends with moved | ⟨files, found, moved⟩
      · refine .inl ⟨moved, sound.loadsAlike sound' opens ?_⟩
        rw [Function.update_self, show trial.moved = _ from moved]
        rfl
      · refine .inr ⟨⟨files, found, moved⟩, sound'.loaded_iff.mpr ?_⟩
        rw [Function.update_self, show trial.moved = _ from moved]
        rfl

/-! ## A directory with one document -/

/-- Numbers that are as long as random names. -/
def numbered (number : Nat) : String := "00000000-0000-4000-8000-000000000000" ++ toString number

/-- A host on whose disk nothing is. -/
def blank : Host := ⟨.empty, ⟨0⟩, numbered, 0⟩

theorem long_numbered (number : Nat) : 36 ≤ (numbered number).utf8ByteSize := by
  have size : (numbered number).utf8ByteSize = 36 + (toString number).utf8ByteSize :=
    String.utf8ByteSize_append
  rw [size]
  exact Nat.le_add_right ..

theorem fresh_blank : Fresh ["data"] blank where
  tree := Disk.isTree_empty
  named := Disk.isNamed_empty
  supply := isSupply_toString.behind (by decide) (by decide +kernel)
  long := long_numbered
  clear found := by
    have deep {path : Path} (long : path.length = 3) : Disk.empty.node? path = none := by
      rw [Disk.node?_of_ne_root (by rintro rfl; cases long)]
      exact Table.get?_empty _
    exact ⟨deep (IsFile.content found).length_eq, deep (IsFile.version found).length_eq⟩

namespace Attempt

/-- A save that meets no failure. -/
def whole : Attempt := ⟨⟨"w", "d"⟩, ⟨[1], 1⟩, ⟨0⟩, []⟩

/-- A save whose version cannot be moved to its place. -/
def torn : Attempt :=
  ⟨⟨"w", "d"⟩, ⟨[2], 2⟩, ⟨0⟩, [none, none, none, none, none, none, none, some .broken]⟩

/-- A save of a document whose name no file can have. -/
def overlong : Attempt :=
  ⟨⟨"w", String.ofList (List.replicate 252 'x')⟩, ⟨[3], 3⟩, ⟨0⟩, [none, none, none, some .broken]⟩

end Attempt

/-- A save that fails after it has moved the content leaves the older version beside it. -/
theorem Reached.saved_file_by_file_torn :
    Attempt.torn.IsPossible ∧ ∃ stored,
      Reached ["data"] (Attempt.whole.run ["data"] blank).2.host stored ∧
        stored ⟨"w", "d"⟩ = some ⟨[1], 1⟩ ∧
        (Attempt.torn.run ["data"] (Attempt.whole.run ["data"] blank).2.host).2.moved =
          [["data", "w", "d.bin"]] ∧
        loaded ["data"] (Attempt.torn.run ["data"]
          (Attempt.whole.run ["data"] blank).2.host).2.host ⟨"w", "d"⟩ = .ok (some ⟨[2], 1⟩) := by
  have possible : Attempt.torn.IsPossible := by decide +kernel
  have reached := (Reached.start fresh_blank).save Attempt.whole (by decide +kernel)
  have moved : (Attempt.torn.run ["data"] (Attempt.whole.run ["data"] blank).2.host).2.moved =
      [["data", "w", "d.bin"]] := by decide +kernel
  have failed : (Attempt.torn.run ["data"] (Attempt.whole.run ["data"] blank).2.host).1 =
      .error (.io "rename to data/w/d.meta.json: Input/output error (os error 5)") := by
    decide +kernel
  have kept : Function.update (fun _ => none) Attempt.whole.document (Attempt.whole.leaves none
      (Attempt.whole.run ["data"] blank).2.moved) ⟨"w", "d"⟩ = some ⟨[1], 1⟩ := by
    rw [show (⟨"w", "d"⟩ : DocumentId) = Attempt.whole.document from rfl, Function.update_self]
    decide +kernel
  obtain ⟨-, ends⟩ := reached.saved_file_by_file Attempt.torn possible
  refine ⟨possible, _, reached, kept, moved, ?_⟩
  generalize Attempt.torn.run ["data"] (Attempt.whole.run ["data"] blank).2.host = run at *
  obtain ⟨result, trial⟩ := run
  cases failed
  rcases ends with ⟨unmoved, -⟩ | ⟨-, loads⟩
  · rw [show trial.moved = _ from moved] at unmoved
    cases unmoved
  · rw [show Attempt.torn.document = ⟨"w", "d"⟩ from rfl, kept] at loads
    exact loads

theorem letters_overlong :
    Attempt.overlong.document.name.toList = List.replicate 252 'x' := String.toList_ofList

theorem places_overlong : places ["data"] Attempt.overlong.document =
    .ok ⟨["data", "w"], ["data", "w", contentName Attempt.overlong.document.name],
      ["data", "w", metaName Attempt.overlong.document.name]⟩ := by
  have apart {other : String} (short : other.toList.length ≤ 2) :
      (Attempt.overlong.document.name == other) = false := by
    refine beq_eq_false_iff_ne.mpr ?_
    rintro same
    rw [← same, letters_overlong, List.length_replicate] at short
    omega
  have isName : Identifier.isPathName Attempt.overlong.document.name = true := by
    rw [Identifier.isPathName, apart (by decide), apart (by decide), apart (by decide),
      letters_overlong]
    decide +kernel
  have isName' : Identifier.isPathName Attempt.overlong.document.workspace = true := by decide
  rw [places, isName, isName']
  rfl

theorem nameError?_overlong :
    Disk.nameError? (contentName Attempt.overlong.document.name) = some .nameTooLong := by
  refine Disk.nameError?_of_long ?_ ?_
  · rw [contentName, String.toList_append, letters_overlong]
    decide +kernel
  · have size : Attempt.overlong.document.name.utf8ByteSize = 252 := by decide +kernel
    have mark : ".bin".utf8ByteSize = 4 := rfl
    rw [contentName, String.utf8ByteSize_append, size, mark]
    decide

/-- No save is all or nothing.  One that fails leaves its content with the version of the
save before it, and where nothing can ever be kept, one that fails leaves a directory, so
that loading fails which found nothing before. -/
theorem saved_in_part :
    ((Attempt.whole.run ["data"] blank).1 = .ok () ∧
      loaded ["data"] (Attempt.whole.run ["data"] blank).2.host ⟨"w", "d"⟩ =
        .ok (some ⟨[1], 1⟩) ∧
      (Attempt.torn.run ["data"] (Attempt.whole.run ["data"] blank).2.host).1 =
        .error (.io "rename to data/w/d.meta.json: Input/output error (os error 5)") ∧
      loaded ["data"] (Attempt.torn.run ["data"]
        (Attempt.whole.run ["data"] blank).2.host).2.host ⟨"w", "d"⟩ = .ok (some ⟨[2], 1⟩)) ∧
    loaded ["data"] blank Attempt.overlong.document = .ok none ∧
      (∃ error, (Attempt.overlong.run ["data"] blank).1 = .error error) ∧
      loaded ["data"] (Attempt.overlong.run ["data"] blank).2.host Attempt.overlong.document =
        .error (.io "File name too long (os error 36)") := by
  refine ⟨by decide +kernel, ?_, ?_, ?_⟩
  · rw [loaded, load, places_overlong]
    decide +kernel
  · rw [Attempt.run, save, places_overlong]
    exact ⟨_, rfl⟩
  · have possible : Attempt.overlong.IsPossible := by decide +kernel
    obtain ⟨-, sound, -⟩ := fresh_blank.sound.save possible
    have directory : (Attempt.overlong.run ["data"] blank).2.host.disk.node? ["data", "w"] =
        some .directory := by
      rw [Attempt.run, save, places_overlong]
      decide +kernel
    have walks := Disk.walk_into sound.tree sound.orderly.named directory
      (contentName Attempt.overlong.document.name)
    rw [nameError?_overlong] at walks
    have fails : (Attempt.overlong.run ["data"] blank).2.host.disk.read
        ["data", "w", contentName Attempt.overlong.document.name] = .error .nameTooLong := by
      have ends : (Attempt.overlong.run ["data"] blank).2.host.disk.walk []
          ["data", "w", contentName Attempt.overlong.document.name] = .error .nameTooLong := walks
      rw [Disk.read, Disk.find, ends]
    rw [loaded_of_missing places_overlong fails]
    rfl

end Coedit.Archive.Files
