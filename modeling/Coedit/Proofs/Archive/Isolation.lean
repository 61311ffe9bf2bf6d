import Coedit.Proofs.Archive.Reach
import Coedit.Proofs.Archive.Saving

/-!
# An archive as a map

Unless a file operation fails, an archive in a directory is a map from documents to
snapshots: what is loaded of a document is what was last saved of it, whatever is done with
all others.  That is so because the files of documents are all different, also while they
are being written.
-/

namespace Coedit.Archive.Files

variable {base path : Path} {document other : DocumentId} {host : Host}
  {files : Places} {stored : DocumentId → Option Snapshot}

/-! ## What is done with an archive -/

/-- What can be done with an archive in a directory. -/
inductive Deed where
  | save (document : DocumentId) (saved : Snapshot) (now : Instant)
  | load (document : DocumentId)
  | version (document : DocumentId)

inductive Reply where
  | saved (result : Except ArchiveError Unit)
  | loaded (result : Except ArchiveError (Option Snapshot))
  | told (result : Except ArchiveError (Option Nat))
  deriving DecidableEq

/-- Whether no file operation has failed. -/
def Reply.isSmooth : Reply → Bool
  | .saved (.error error) => !error.isIo
  | .loaded (.error error) => !error.isIo
  | .told (.error error) => !error.isIo
  | _ => true

/-- What is said of the version of a document. -/
def versioned (base : Path) (host : Host) (document : DocumentId) :
    Except ArchiveError (Option Nat) :=
  ((version base document).run Host.perform host).1

namespace Deed

/-- What comes of a deed on a host. -/
def perform (base : Path) (host : Host) : Deed → Reply × Host
  | .save document saved now =>
      let (result, after) :=
        (Files.save base document saved).run Host.perform { host with now := now }
      (.saved result, after)
  | .load document =>
      let (result, after) := (Files.load base document).run Host.perform host
      (.loaded result, after)
  | .version document =>
      let (result, after) := (Files.version base document).run Host.perform host
      (.told result, after)

/-- The document a deed is about. -/
def about : Deed → DocumentId
  | .save document _ _ => document
  | .load document => document
  | .version document => document

/-- The reply to a deed that fails. -/
def fail (error : ArchiveError) : Deed → Reply
  | .save .. => .saved (.error error)
  | .load _ => .loaded (.error error)
  | .version _ => .told (.error error)

/-- Saves of versions that can be stored, in a time that has dates. -/
def IsPossible : Deed → Prop
  | .save _ saved now => saved.version < versionBound ∧ Timestamp.InCalendar now
  | _ => True

instance (deed : Deed) : Decidable deed.IsPossible :=
  match deed with
  | .save _ saved now =>
      inferInstanceAs (Decidable (saved.version < versionBound ∧ Timestamp.InCalendar now))
  | .load _ => .isTrue trivial
  | .version _ => .isTrue trivial

end Deed

/-- A map from documents to snapshots. -/
abbrev Catalogue := DocumentId → Option Snapshot

/-- The same deed with a map.  Identifiers that are no names of paths are refused. -/
def Catalogue.perform (catalogue : Catalogue) (deed : Deed) : Reply × Catalogue :=
  match refusal? deed.about with
  | some error => (deed.fail error, catalogue)
  | none =>
      match deed with
      | .save document saved _ => (.saved (.ok ()), Function.update catalogue document (some saved))
      | .load document => (.loaded (.ok (catalogue document)), catalogue)
      | .version document => (.told (.ok ((catalogue document).map (·.version))), catalogue)

/-- The replies to some deeds, one after the other. -/
def replies {σ : Type} (perform : σ → Deed → Reply × σ) (state : σ) : List Deed → List Reply
  | [] => []
  | deed :: later => (perform state deed).1 :: replies perform (perform state deed).2 later

/-! ## Looking -/

/-- Looking at a file. -/
def Looks (question : FileCall) : Prop :=
  (∃ path, question = .read path) ∨ ∃ path, question = .probe path

/-- Looking at files changes nothing. -/
theorem unchanged_of_looks {α : Type} {program : FileProgram α}
    (looks : program.Every fun question _ => Looks question) (host : Host) :
    (program.run Host.perform host).2 = host := by
  induction program generalizing host with
  | done value => rfl
  | ask question next ih =>
      obtain ⟨asked, rest⟩ := looks
      have still : (host.perform question).2 = host := by
        rcases asked with ⟨path, rfl⟩ | ⟨path, rfl⟩
        · rfl
        · rfl
      rw [Program.run, ih _ (rest _), still]

theorem looks_readVersion (path : Path) :
    (readVersion path).Every fun question _ => Looks question := by
  refine ⟨.inl ⟨path, rfl⟩, ?_⟩
  intro answer
  cases answer with
  | error error => cases error <;> trivial
  | ok content =>
      dsimp only
      split
      · trivial
      · trivial

theorem looks_load : (load base document).Every fun question _ => Looks question := by
  unfold load
  split
  · trivial
  · next files found =>
      refine ⟨.inl ⟨files.content, rfl⟩, ?_⟩
      intro answer
      cases answer with
      | error error => cases error <;> trivial
      | ok content =>
          exact Program.Every.andThen (looks_readVersion files.version) fun _ => trivial

theorem looks_version : (version base document).Every fun question _ => Looks question := by
  unfold version
  split
  · trivial
  · next files found =>
      refine Program.Every.andThen (looks_readVersion files.version) ?_
      intro version
      cases version with
      | some number => trivial
      | none =>
          refine ⟨.inr ⟨files.content, rfl⟩, ?_⟩
          intro answer
          cases answer with
          | error error => trivial
          | ok present => trivial

/-! ## Single deeds -/

/-- Where the version is not told by its own file, the content is looked for. -/
theorem versioned_of_missing (found : places base document = .ok files)
    (missing : (readVersion files.version).run Host.perform host = (.ok none, host)) :
    versioned base host document =
      match host.disk.probe files.content with
      | .ok present => .ok (if present then some 0 else none)
      | .error error => .error (.io error.message) := by
  rw [versioned, version, found]
  dsimp only
  rw [Program.run_andThen missing]
  dsimp only
  rw [Program.run, Host.perform]
  cases host.disk.probe files.content with
  | ok present => rfl
  | error error => rfl

/-- Where something is kept, its version is told. -/
theorem versioned_of_keeps (orderly : Orderly base host) (tree : host.disk.IsTree)
    {snapshot : Snapshot} (keeps : (spot base host document).Keeps (some snapshot)) :
    versioned base host document = .ok (some snapshot.version) := by
  cases found : places base document with
  | error error =>
      rw [spot, found] at keeps
      cases keeps.1
  | ok files =>
      obtain ⟨version, tells, equal⟩ := readVersion_of_keeps orderly tree found keeps
      cases version with
      | some number =>
          rw [versioned, Files.version, found]
          dsimp only
          rw [Program.run_andThen tells, ← equal]
          rfl
      | none =>
          rw [spot, found] at keeps
          have present : host.disk.node? files.content ≠ none := by
            rw [show host.disk.node? files.content = _ from keeps.1]
            simp
          rw [versioned_of_missing found tells,
            Disk.probe_of_present tree orderly.named present, ← equal]
          rfl

/-- Where nothing is kept, no version is told. -/
theorem versioned_of_nothing (found : places base document = .ok files)
    (content : host.disk.node? files.content = none)
    (version : host.disk.node? files.version = none) :
    versioned base host document = .ok none ∨
      ∃ detail, versioned base host document = .error (.io detail) := by
  have fails : ∃ error, host.disk.read files.version = .error error := by
    rw [Disk.read_of_missing version]
    split
    · exact ⟨_, rfl⟩
    · exact ⟨_, rfl⟩
  obtain ⟨error, fails⟩ := fails
  by_cases absent : error = .notFound
  · have tells : (readVersion files.version).run Host.perform host = (.ok none, host) := by
      rw [readVersion, Program.run, Host.perform, fails, absent]
      rfl
    rw [versioned_of_missing found tells]
    cases probes : host.disk.probe files.content with
    | error error => exact .inr ⟨_, rfl⟩
    | ok present =>
        refine .inl ?_
        unfold Disk.probe Disk.find at probes
        rw [content] at probes
        cases walks : host.disk.walk [] files.content with
        | ok reached =>
            rw [walks] at probes
            cases probes
            rfl
        | error error =>
            rw [walks] at probes
            cases error <;> cases probes
            rfl
  · refine .inr ⟨error.message, ?_⟩
    rw [versioned, Files.version, found]
    dsimp only
    rw [readVersion, Program.andThen, Program.ask_bind, Program.run, Host.perform, fails]
    cases error with
    | notFound => exact absurd rfl absent
    | _ => rfl

/-- A save in which nothing is made to fail goes as it does on the host itself. -/
theorem Trial.run_calm {α : Type} (program : FileProgram α) (host : Host) (moved : List Path) :
    (program.run Trial.answer ⟨host, [], moved⟩).1 = (program.run Host.perform host).1 ∧
      (program.run Trial.answer ⟨host, [], moved⟩).2.host = (program.run Host.perform host).2 := by
  induction program generalizing host moved with
  | done value => exact ⟨rfl, rfl⟩
  | ask question next ih => exact ih _ _ _

/-- The deed is replied to as with a map, and leaves what the map keeps. -/
def Matches (base : Path) (host : Host) (stored : Catalogue) (deed : Deed) : Prop :=
  (deed.perform base host).1 = (stored.perform deed).1 ∧
    Sound base (deed.perform base host).2 (stored.perform deed).2

/-- A document that is not refused has its files. -/
theorem places_of_served (base : Path) (served : refusal? document = none) :
    ∃ files, places base document = .ok files := by
  have named := places_of_refusal base document
  rw [served] at named
  exact named

/-- An identifier that is no name of a path is refused, and nothing is touched. -/
theorem Sound.matches_refused (sound : Sound base host stored) {deed : Deed}
    {error : ArchiveError} (refused : refusal? deed.about = some error) :
    Matches base host stored deed := by
  have named := places_of_refusal base deed.about
  rw [refused] at named
  unfold Matches Catalogue.perform
  rw [refused]
  cases deed with
  | save document saved now =>
      have ends : (Deed.save document saved now).perform base host =
          (.saved (.error error), { host with now := now }) := by
        rw [Deed.perform, Files.save, show places base document = _ from named]
        rfl
      rw [ends]
      exact ⟨rfl, sound.tree, sound.supply,
        ⟨sound.orderly.named, sound.orderly.long, sound.orderly.proper⟩, sound.keeps⟩
  | load document =>
      have ends : (Deed.load document).perform base host = (.loaded (.error error), host) := by
        rw [Deed.perform, load, show places base document = _ from named]
        rfl
      rw [ends]
      exact ⟨rfl, sound⟩
  | version document =>
      have ends : (Deed.version document).perform base host = (.told (.error error), host) := by
        rw [Deed.perform, version, show places base document = _ from named]
        rfl
      rw [ends]
      exact ⟨rfl, sound⟩

theorem Sound.matches_save (sound : Sound base host stored) {saved : Snapshot} {now : Instant}
    (served : refusal? document = none) (possible : (Deed.save document saved now).IsPossible)
    (smooth : ((Deed.save document saved now).perform base host).1.isSmooth = true) :
    Matches base host stored (.save document saved now) := by
  let attempt : Attempt := ⟨document, saved, now, []⟩
  have possible' : attempt.IsPossible := ⟨possible.1, possible.2⟩
  obtain ⟨ends, sound', -⟩ := sound.save possible'
  obtain ⟨result_eq, host_eq⟩ :=
    Trial.run_calm (Files.save base document saved) { host with now := now } []
  obtain ⟨files, found⟩ := places_of_served base served
  have fails := FileProgram.post_of_safe (save_concerns found saved) { host with now := now }
  cases result : ((Files.save base document saved).run Host.perform { host with now := now }).1 with
  | error error =>
      have told : ((Deed.save document saved now).perform base host).1 = .saved (.error error) :=
        congrArg Reply.saved result
      rw [told, Reply.isSmooth, fails error result] at smooth
      cases smooth
  | ok done =>
      have whole : (attempt.run base host).1 = .ok () := result_eq.trans result
      have after : ((Deed.save document saved now).perform base host).2 =
          (attempt.run base host).2.host := host_eq.symm
      rw [whole] at ends
      obtain ⟨files, -, moved⟩ := ends
      rw [moved] at sound'
      unfold Matches Catalogue.perform
      rw [show refusal? (Deed.save document saved now).about = none from served, after]
      exact ⟨congrArg Reply.saved result, sound'⟩

theorem Sound.matches_load (sound : Sound base host stored)
    (served : refusal? document = none)
    (smooth : ((Deed.load document).perform base host).1.isSmooth = true) :
    Matches base host stored (.load document) := by
  obtain ⟨files, found⟩ := places_of_served base served
  have told : ((Deed.load document).perform base host).1 = .loaded (loaded base host document) :=
    rfl
  have still : ((Deed.load document).perform base host).2 = host :=
    unchanged_of_looks looks_load host
  have right : loaded base host document = .ok (stored document) := by
    cases kept : stored document with
    | some snapshot => exact sound.loaded_iff.mpr kept
    | none =>
        have keeps := sound.keeps document
        rw [kept, spot, found] at keeps
        have missing : host.disk.node? files.content = none := keeps.1
        cases reads : host.disk.read files.content with
        | ok content =>
            rw [Disk.read_ok reads] at missing
            cases missing
        | error error =>
            rw [told, loaded_of_missing found reads] at smooth
            rw [loaded_of_missing found reads]
            split at smooth
            · next absent => rw [if_pos absent]
            · cases smooth
  unfold Matches Catalogue.perform
  rw [show refusal? (Deed.load document).about = none from served, told, right, still]
  exact ⟨rfl, sound⟩

theorem Sound.matches_version (sound : Sound base host stored)
    (served : refusal? document = none)
    (smooth : ((Deed.version document).perform base host).1.isSmooth = true) :
    Matches base host stored (.version document) := by
  obtain ⟨files, found⟩ := places_of_served base served
  have told : ((Deed.version document).perform base host).1 =
      .told (versioned base host document) := rfl
  have still : ((Deed.version document).perform base host).2 = host :=
    unchanged_of_looks looks_version host
  have right : versioned base host document = .ok ((stored document).map (·.version)) := by
    have keeps := sound.keeps document
    cases kept : stored document with
    | some snapshot =>
        rw [kept] at keeps
        exact versioned_of_keeps sound.orderly sound.tree keeps
    | none =>
        rw [kept, spot, found] at keeps
        rcases versioned_of_nothing found keeps.1 keeps.2 with nothing | ⟨detail, fails⟩
        · exact nothing
        · rw [told, fails] at smooth
          cases smooth
  unfold Matches Catalogue.perform
  rw [show refusal? (Deed.version document).about = none from served, told, right, still]
  exact ⟨rfl, sound⟩

/-- A deed that meets no failure gets the reply of the map, and leaves what the map keeps. -/
theorem Sound.matches (sound : Sound base host stored) {deed : Deed} (possible : deed.IsPossible)
    (smooth : (deed.perform base host).1.isSmooth = true) : Matches base host stored deed := by
  cases refused : refusal? deed.about with
  | some error => exact sound.matches_refused refused
  | none =>
      cases deed with
      | save document saved now => exact sound.matches_save refused possible smooth
      | load document => exact sound.matches_load refused smooth
      | version document => exact sound.matches_version refused smooth

/-- Some deeds that meet no failure get the replies of the map. -/
theorem Sound.replies_eq (sound : Sound base host stored) {deeds : List Deed}
    (possible : ∀ deed ∈ deeds, deed.IsPossible)
    (smooth : ∀ reply ∈ replies (Deed.perform base) host deeds, reply.isSmooth = true) :
    replies (Deed.perform base) host deeds = replies Catalogue.perform stored deeds := by
  induction deeds generalizing host stored with
  | nil => rfl
  | cons deed later ih =>
      obtain ⟨same, sound'⟩ := sound.matches (possible deed List.mem_cons_self)
        (smooth _ List.mem_cons_self)
      rw [replies, replies, same, ih sound'
        (fun next mem => possible next (List.mem_cons_of_mem deed mem))
        (fun reply mem => smooth reply (List.mem_cons_of_mem _ mem))]

/-! ## Files apart -/

/-- The files of documents are all different, those included that are being written. -/
structure FilesApart (base : Path) (nameOf : Nat → String) : Prop where
  files {document other : DocumentId} {path : Path} (isFile : IsFile base document path)
    (again : IsFile base other path) : document = other
  contents {document other : DocumentId} {files others : Places}
    (found : places base document = .ok files) (found' : places base other = .ok others) :
    files.content ≠ others.version
  drafts {document other : DocumentId} {path : Path} {number : Nat}
    (isDraft : IsDraft base document (nameOf number) path) : ¬ IsFile base other path
  numbers {document other : DocumentId} {path : Path} {number number' : Nat}
    (isDraft : IsDraft base document (nameOf number) path)
    (again : IsDraft base other (nameOf number') path) : number = number'

theorem IsSupply.filesApart {nameOf : Nat → String} (supply : IsSupply nameOf) (base : Path) :
    FilesApart base nameOf where
  files isFile again := isFile.functional again
  contents found found' := content_ne_version found found'
  drafts isDraft := isDraft.not_isFile supply
  numbers isDraft again := supply.injective (isDraft.functional supply again)

/-- Whether an operation is about names in a directory, or about none. -/
def StaysIn (directory : Path) (question : FileCall) : Prop :=
  ∀ path ∈ question.files, ∃ name, path = directory ++ [name] ∧ Identifier.isPathName name = true

/-- Whatever is done with a document stays in the directory of its workspace.  If one of its
identifiers is refused, nothing is done. -/
def StaysHome (base : Path) (nameOf : Nat → String) (document : DocumentId) : Prop :=
  match refusal? document with
  | some error =>
      load base document = .done (.error error) ∧ version base document = .done (.error error) ∧
        ∀ saved, save base document saved = .done (.error error)
  | none =>
      let rules := FileCall.rules (fun unused => ∃ number, unused = nameOf number)
        (StaysIn (base ++ [document.workspace]))
      (load base document).Safe rules (fun _ _ => True) () ∧
        (version base document).Safe rules (fun _ _ => True) () ∧
        ∀ saved, (save base document saved).Safe rules (fun _ _ => True) ()

theorem staysHome {nameOf : Nat → String} (random : ∀ number, FileName.IsRandom (nameOf number))
    (base : Path) (document : DocumentId) : StaysHome base nameOf document := by
  have named := places_of_refusal base document
  unfold StaysHome
  cases refused : refusal? document with
  | some error =>
      rw [refused] at named
      refine ⟨by rw [load, named], by rw [version, named], ?_⟩
      intro saved
      rw [save, named]
  | none =>
      rw [refused] at named
      obtain ⟨files, found⟩ := named
      have stays (question : FileCall)
          (concerns : Concerns (fun unused => ∃ number, unused = nameOf number) base document
            question) : StaysIn (base ++ [document.workspace]) question := by
        intro path mem
        refine (concerns path mem).inside ?_
        rintro unused ⟨number, rfl⟩
        exact random number
      refine ⟨FileProgram.safe_of_may ((load_concerns found).mono fun _ _ _ => trivial) stays,
        FileProgram.safe_of_may ((version_concerns found).mono fun _ _ _ => trivial) stays, ?_⟩
      intro saved
      exact FileProgram.safe_of_may ((save_concerns found saved).mono fun _ _ _ => trivial) stays

/-- Unless a file operation fails, an archive in a directory replies to whatever is done with
it as a map from documents to snapshots does, which knows nothing of files.  The files of
documents never meet, and they lie in the directories of their workspaces. -/
theorem Fresh.replies_as_map (fresh : Fresh base host)
    (random : ∀ number, FileName.IsRandom (host.nameOf number)) {deeds : List Deed}
    (possible : ∀ deed ∈ deeds, deed.IsPossible)
    (smooth : ∀ reply ∈ replies (Deed.perform base) host deeds, reply.isSmooth = true) :
    replies (Deed.perform base) host deeds = replies Catalogue.perform (fun _ => none) deeds ∧
      FilesApart base host.nameOf ∧ ∀ document, StaysHome base host.nameOf document :=
  ⟨fresh.sound.replies_eq possible smooth, fresh.supply.filesApart base, staysHome random base⟩

/-! ## Documents side by side -/

theorem isRandom_numbered (number : Nat) : FileName.IsRandom (numbered number) := by
  have shown : (toString number).toList = Nat.toDigits 10 number := by
    rw [Nat.toString_eq_ofList_toDigits, String.toList_ofList]
  have letters : (numbered number).toList =
      "00000000-0000-4000-8000-000000000000".toList ++ Nat.toDigits 10 number :=
    String.toList_append.trans (congrArg _ shown)
  constructor
  · rw [letters, List.length_append]
    exact Nat.le_add_right ..
  · intro char mem
    rw [letters, List.mem_append] at mem
    rcases mem with mem | mem
    · have every : ("00000000-0000-4000-8000-000000000000".toList.all
          fun char => char.isDigit || char == '-') = true := by decide
      have plain := List.all_eq_true.mp every char mem
      rw [Bool.or_eq_true, beq_iff_eq] at plain
      rcases plain with digit | rfl
      · exact .inl digit
      · exact .inr (by decide)
    · exact .inl (Nat.isDigit_of_mem_toDigits (by decide) (by decide) mem)

/-- Documents whose names look like those of each other's files. -/
def lookalikes : List Deed :=
  [.save ⟨"w", "d"⟩ ⟨[1], 1⟩ ⟨0⟩, .save ⟨"w", "d.meta"⟩ ⟨[2], 2⟩ ⟨0⟩,
    .save ⟨"w", "d.bin"⟩ ⟨[3], 3⟩ ⟨0⟩, .save ⟨"w", "d.tmp"⟩ ⟨[4], 4⟩ ⟨0⟩,
    .save ⟨"w", "d"⟩ ⟨[5], 5⟩ ⟨0⟩, .save ⟨"..", "d"⟩ ⟨[6], 6⟩ ⟨0⟩,
    .load ⟨"w", "d"⟩, .version ⟨"w", "d.meta"⟩, .load ⟨"w", "d.bin"⟩, .version ⟨"w.", "d"⟩]

theorem Fresh.replies_as_map_lookalikes :
    Fresh ["data"] blank ∧ (∀ number, FileName.IsRandom (blank.nameOf number)) ∧
      (∀ deed ∈ lookalikes, deed.IsPossible) ∧
      (∀ reply ∈ replies (Deed.perform ["data"]) blank lookalikes, reply.isSmooth = true) ∧
      replies (Deed.perform ["data"]) blank lookalikes =
        [.saved (.ok ()), .saved (.ok ()), .saved (.ok ()), .saved (.ok ()), .saved (.ok ()),
          .saved (.error (.invalidPath "..")), .loaded (.ok (some ⟨[5], 5⟩)), .told (.ok (some 2)),
          .loaded (.ok (some ⟨[3], 3⟩)), .told (.ok none)] := by
  have possible : ∀ deed ∈ lookalikes, deed.IsPossible := by decide +kernel
  have smooth : ∀ reply ∈ replies (Deed.perform ["data"]) blank lookalikes,
      reply.isSmooth = true := by decide +kernel
  refine ⟨fresh_blank, isRandom_numbered, possible, smooth, ?_⟩
  rw [(fresh_blank.replies_as_map isRandom_numbered possible smooth).1]
  decide +kernel

end Coedit.Archive.Files
