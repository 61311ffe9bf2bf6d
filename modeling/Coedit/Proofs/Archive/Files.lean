import Coedit.Proofs.Archive.Keeping
import Coedit.Proofs.Archive.Places
import Coedit.Proofs.Disk.Tree

/-!
# Directories keep documents

An archive in a directory keeps the contract, except that a save may stop half-way.
-/

namespace Coedit.Archive.Files

variable {base path : Path} {document other : DocumentId} {files : Places}

/-! ## Disks -/

/-- The files of documents have this in them, and nobody has the unused name of another. -/
structure Holds (base : Path) (spots : DocumentId → Place) (host : Host) : Prop where
  tree : host.disk.IsTree
  supply : IsSupply host.nameOf
  clock : Timestamp.InCalendar host.now
  nodes {document : DocumentId} {files : Places} (found : places base document = .ok files) :
    (spots document).content = host.disk.node? files.content ∧
      (spots document).version = host.disk.node? files.version
  placeless {document : DocumentId} {error : ArchiveError}
    (invalid : places base document = .error error) :
    (spots document).content = none ∧ (spots document).version = none
  named {document : DocumentId} {unused : String}
    (named : (spots document).unused = some unused) :
    ∃ number < host.namesUsed, unused = host.nameOf number
  apart {document other : DocumentId} {unused : String}
    (named : (spots document).unused = some unused)
    (again : (spots other).unused = some unused) : document = other
  drafted {document : DocumentId} {path : Path} {content : Bytes}
    (drafted : (spots document).draft = some (path, content)) :
    host.disk.node? path = some (.file content) ∧
      ∃ unused, (spots document).unused = some unused ∧ IsDraft base document unused path

/-- What a disk has of one document, whatever the places of the others are. -/
structure Sits (base : Path) (host : Host) (document : DocumentId) (place : Place) : Prop where
  nodes {files : Places} (found : places base document = .ok files) :
    place.content = host.disk.node? files.content ∧
      place.version = host.disk.node? files.version
  placeless {error : ArchiveError} (invalid : places base document = .error error) :
    place.content = none ∧ place.version = none
  named {unused : String} (named : place.unused = some unused) :
    ∃ number < host.namesUsed, unused = host.nameOf number
  drafted {path : Path} {content : Bytes} (drafted : place.draft = some (path, content)) :
    host.disk.node? path = some (.file content) ∧
      ∃ unused, place.unused = some unused ∧ IsDraft base document unused path

/-- The files of a document, those included that are being written. -/
def Owns (base : Path) (spots : DocumentId → Place) (document : DocumentId) (path : Path) : Prop :=
  IsFile base document path ∨
    ∃ unused, (spots document).unused = some unused ∧ IsDraft base document unused path

namespace Holds

variable {spots : DocumentId → Place} {host : Host}

/-- A file belongs to one document. -/
theorem owns_functional (holds : Holds base spots host) (owns : Owns base spots document path)
    (again : Owns base spots other path) : document = other := by
  rcases owns with isFile | ⟨unused, named, isDraft⟩
  · rcases again with isFile' | ⟨unused', named', isDraft'⟩
    · exact isFile.functional isFile'
    · obtain ⟨number, -, rfl⟩ := holds.named named'
      exact absurd isFile (isDraft'.not_isFile holds.supply)
  · obtain ⟨number, -, rfl⟩ := holds.named named
    rcases again with isFile' | ⟨unused', named', isDraft'⟩
    · exact absurd isFile' (isDraft.not_isFile holds.supply)
    · obtain ⟨number', -, rfl⟩ := holds.named named'
      rw [isDraft.functional holds.supply isDraft'] at named
      exact holds.apart named named'

/-- What a change to one document leaves: its own place is as the disk has it, its unused
name is nobody else's, and the files of all others are as they were. -/
theorem updated (holds : Holds base spots host) {after : Host} {place : Place}
    (tree : after.disk.IsTree) (names : after.nameOf = host.nameOf) (now : after.now = host.now)
    (more : host.namesUsed ≤ after.namesUsed) (sits : Sits base after document place)
    (sole : ∀ other unused, other ≠ document → (spots other).unused = some unused →
      place.unused ≠ some unused)
    (frame : ∀ other path, other ≠ document → Owns base spots other path →
      after.disk.node? path = host.disk.node? path) :
    Holds base (Function.update spots document place) after := by
  have elsewhere {other : DocumentId} (apart : other ≠ document) :
      Sits base after other (spots other) := by
    constructor
    case nodes =>
      intro files found
      obtain ⟨content, version⟩ := holds.nodes found
      exact ⟨content.trans (frame other _ apart (.inl (.content found))).symm,
        version.trans (frame other _ apart (.inl (.version found))).symm⟩
    case placeless =>
      intro error invalid
      exact holds.placeless invalid
    case named =>
      intro unused named
      obtain ⟨number, below, equal⟩ := holds.named named
      exact ⟨number, Nat.lt_of_lt_of_le below more, names ▸ equal⟩
    case drafted =>
      intro path content written
      obtain ⟨file, unused, named, isDraft⟩ := holds.drafted written
      exact ⟨(frame other path apart (.inr ⟨unused, named, isDraft⟩)).trans file, unused, named,
        isDraft⟩
  have all (other : DocumentId) :
      Sits base after other (Function.update spots document place other) := by
    by_cases same : other = document
    · rw [same, Function.update_self]
      exact sits
    · rw [Function.update_of_ne same]
      exact elsewhere same
  constructor
  case tree => exact tree
  case supply => exact names ▸ holds.supply
  case clock => exact now ▸ holds.clock
  case nodes => exact fun found => (all _).nodes found
  case placeless => exact fun invalid => (all _).placeless invalid
  case named => exact fun named => (all _).named named
  case drafted => exact fun written => (all _).drafted written
  case apart =>
    intro left right unused named again
    by_cases first : left = document
    · by_cases second : right = document
      · rw [first, second]
      · rw [first, Function.update_self] at named
        rw [Function.update_of_ne second] at again
        exact absurd named (sole right unused second again)
    · rw [Function.update_of_ne first] at named
      by_cases second : right = document
      · rw [second, Function.update_self] at again
        exact absurd again (sole left unused first named)
      · rw [Function.update_of_ne second] at again
        exact holds.apart named again

/-- A change to the files of one document alone. -/
theorem changed (holds : Holds base spots host) {disk : Disk} {place : Place}
    (tree : disk.IsTree) (found : places base document = .ok files)
    (nodes : place.content = disk.node? files.content ∧ place.version = disk.node? files.version)
    (unused : place.unused = (spots document).unused)
    (drafted : ∀ path content, place.draft = some (path, content) →
      disk.node? path = some (.file content) ∧
        ∃ unused, place.unused = some unused ∧ IsDraft base document unused path)
    (frame : ∀ other path, other ≠ document → Owns base spots other path →
      disk.node? path = host.disk.node? path) :
    Holds base (Function.update spots document place) { host with disk := disk } := by
  refine holds.updated tree rfl rfl (Nat.le_refl _) ?_ ?_ frame
  · constructor
    case nodes =>
      intro others again
      rw [found] at again
      cases again
      exact nodes
    case placeless =>
      intro error invalid
      rw [found] at invalid
      cases invalid
    case named =>
      intro name named
      rw [unused] at named
      exact holds.named named
    case drafted => exact fun written => drafted _ _ written
  · intro other name apart named again
    rw [unused] at again
    exact apart (holds.apart named again)

theorem node_eq (holds : Holds base spots host) (found : places base document = .ok files)
    (isFile : IsFile base document path) :
    (spots document).node files path = host.disk.node? path := by
  obtain ⟨content, version⟩ := holds.nodes found
  cases isFile with
  | content found' =>
      rw [found] at found'
      cases found'
      exact (if_pos rfl).trans content
  | version found' =>
      rw [found] at found'
      cases found'
      exact (if_neg (content_ne_version found found).symm).trans version

/-- A directory is made, or those on the way to it. -/
theorem makeDirectories (holds : Holds base spots host)
    (found : places base document = .ok files) {disk : Disk} {made : Except FileError Unit}
    (makes : host.disk.makeDirectoriesFrom [] files.directory = (made, disk)) :
    Holds base spots { host with disk := disk } := by
  obtain ⟨tree, changes⟩ := Disk.makeDirectoriesFrom_within holds.tree host.disk.node?_root makes
  have beyond (path : Path) (long : base.length + 1 < path.length) :
      disk.node? path = host.disk.node? path := by
    rcases changes path with same | ⟨-, -, within⟩
    · exact same
    · have short := within.length_le
      rw [places_ok found] at short
      simp at short
      omega
  have deep {other : DocumentId} {path : Path} (owns : Owns base spots other path) :
      base.length + 1 < path.length := by
    rcases owns with isFile | ⟨unused, -, isDraft⟩
    · rw [isFile.length_eq]
      omega
    · rw [isDraft.length_eq]
      omega
  rw [← Function.update_eq_self document spots]
  refine holds.changed tree found ?_ rfl ?_ fun other path _ owns => beyond path (deep owns)
  · obtain ⟨content, version⟩ := holds.nodes found
    exact ⟨content.trans (beyond _ (deep (.inl (.content found)))).symm,
      version.trans (beyond _ (deep (.inl (.version found)))).symm⟩
  · intro path content drafted
    obtain ⟨file, owner⟩ := holds.drafted drafted
    exact ⟨(beyond path (deep (.inr owner))).trans file, owner⟩

/-- A file is written under an unused name. -/
theorem write (holds : Holds base spots host) {unused : String} {content : Bytes} {disk : Disk}
    (found : places base document = .ok files) (named : (spots document).unused = some unused)
    (isDraft : IsDraft base document unused path)
    (writes : host.disk.write path content = .ok disk) :
    Holds base
      (Function.update spots document { spots document with draft := some (path, content) })
      { host with disk := disk } := by
  obtain ⟨⟨parent, name, equal, directory⟩, free, put⟩ := Disk.write_ok writes
  have owns : Owns base spots document path := .inr ⟨unused, named, isDraft⟩
  have isolated {other : Path} (isFile : IsFile base document other) : other ≠ path := by
    rintro rfl
    obtain ⟨number, -, rfl⟩ := holds.named named
    exact isDraft.not_isFile holds.supply isFile
  refine holds.changed ?_ found ?_ rfl ?_ ?_
  · rw [equal] at free put
    exact holds.tree.of_put directory free put
  · rw [put, put, if_neg (isolated (.content found)), if_neg (isolated (.version found))]
    exact holds.nodes found
  · rintro _ _ ⟨⟩
    rw [put, if_pos rfl]
    exact ⟨rfl, unused, named, isDraft⟩
  · intro other path' apart rival
    rw [put, if_neg]
    rintro rfl
    exact apart (holds.owns_functional rival owns)

/-- A file that has been written is moved to its place. -/
theorem rename (holds : Holds base spots host) {source target : Path} {content : Bytes}
    {disk : Disk} (found : places base document = .ok files)
    (drafted : (spots document).draft = some (source, content))
    (isFile : IsFile base document target)
    (renames : host.disk.rename source target = .ok disk) :
    Holds base (Function.update spots document ((spots document).settle files target content))
      { host with disk := disk } := by
  obtain ⟨⟨parent, name, equal, directory⟩, free, content', file, put⟩ := Disk.rename_ok renames
  obtain ⟨written, unused, named, isDraft⟩ := holds.drafted drafted
  rw [file] at written
  cases written
  have isolated {other : DocumentId} {path : Path} (isFile : IsFile base other path) :
      path ≠ source := by
    rintro rfl
    obtain ⟨number, -, rfl⟩ := holds.named named
    exact isDraft.not_isFile holds.supply isFile
  have frame (other : DocumentId) (path : Path) (apart : other ≠ document)
      (owns : Owns base spots other path) : disk.node? path = host.disk.node? path := by
    rw [put, if_neg, if_neg]
    · rintro rfl
      exact apart (holds.owns_functional owns (.inr ⟨unused, named, isDraft⟩))
    · rintro rfl
      exact apart (holds.owns_functional owns (.inl isFile))
  have unused_eq : ((spots document).settle files target content).unused =
      (spots document).unused := by
    unfold Place.settle
    split <;> rfl
  refine holds.changed ?_ found ?_ unused_eq ?_ frame
  · rw [equal] at free put
    exact holds.tree.of_move file directory free put
  · obtain ⟨content, version⟩ := holds.nodes found
    have apart := content_ne_version found found
    cases isFile with
    | content found' =>
        rw [found] at found'
        cases found'
        rw [Place.settle, if_pos rfl, put, if_pos rfl, put, if_neg apart.symm,
          if_neg (isolated (.version found))]
        exact ⟨rfl, version⟩
    | version found' =>
        rw [found] at found'
        cases found'
        rw [Place.settle, if_neg apart.symm, put, if_neg apart,
          if_neg (isolated (.content found)), put, if_pos rfl]
        exact ⟨content, rfl⟩
  · intro path content written
    unfold Place.settle at written
    split at written <;> cases written

/-- A name is taken that nobody has. -/
theorem takeName (holds : Holds base spots host) (document : DocumentId) :
    Holds base
      (Function.update spots document
        { spots document with unused := some (host.nameOf host.namesUsed), draft := none })
      { host with namesUsed := host.namesUsed + 1 } := by
  refine holds.updated holds.tree rfl rfl (Nat.le_succ _) ?_ ?_ fun _ _ _ _ => rfl
  · constructor
    case nodes => exact fun found => holds.nodes found
    case placeless => exact fun invalid => holds.placeless invalid
    case named =>
      rintro unused ⟨⟩
      exact ⟨host.namesUsed, Nat.lt_succ_self _, rfl⟩
    case drafted =>
      rintro path content ⟨⟩
  · rintro other unused apart named ⟨⟩
    obtain ⟨number, below, same⟩ := holds.named named
    rw [holds.supply.injective same] at below
    exact Nat.lt_irrefl _ below

end Holds

variable {spots : DocumentId → Place} {host : Host} {question : FileCall}

/-- An operation that fails has no effect. -/
theorem failed {fault : FileError}
    (asks : Asks base document (spots document) question) (happens : Happens question fault) :
    (rules base document).answers (spots document) question (.error fault) (spots document) := by
  intro files found
  cases asks with
  | makeDirectories => rfl
  | read =>
      refine ⟨rfl, by rintro content ⟨⟩, ?_⟩
      intro same
      exact absurd (Except.error.inj same) happens
  | probe => exact ⟨rfl, by rintro present ⟨⟩⟩
  | time => exact ⟨rfl, by rintro now ⟨⟩⟩
  | unusedName => rfl
  | write => rfl
  | rename => rfl

/-- What is asked about one document is answered by the disk, and leaves all others alone. -/
theorem performed (holds : Holds base spots host)
    (asks : Asks base document (spots document) question) :
    ∃ place, (rules base document).answers (spots document) question
        (host.perform question).1 place ∧
      Holds base (Function.update spots document place) (host.perform question).2 := by
  have still : Holds base (Function.update spots document (spots document)) host := by
    rw [Function.update_eq_self]
    exact holds
  have sole {files others : Places} (found : places base document = .ok files)
      (again : places base document = .ok others) : others = files := by
    rw [found] at again
    exact (Except.ok.inj again).symm
  cases asks with
  | @makeDirectories files found =>
      refine ⟨spots document, fun _ _ => rfl, ?_⟩
      rw [Host.perform, Function.update_eq_self]
      exact holds.makeDirectories found rfl
  | @read path isFile =>
      refine ⟨spots document, ?_, still⟩
      intro files found
      refine ⟨rfl, ?_, ?_⟩
      · intro content reads
        rw [holds.node_eq found isFile]
        exact Disk.read_ok reads
      · intro missing
        rw [holds.node_eq found isFile]
        exact Disk.read_notFound holds.tree missing
  | @probe path isFile =>
      refine ⟨spots document, ?_, still⟩
      intro files found
      refine ⟨rfl, ?_⟩
      intro present probes
      rw [holds.node_eq found isFile]
      exact Disk.probe_ok holds.tree probes
  | time found =>
      refine ⟨spots document, ?_, still⟩
      intro files found
      refine ⟨rfl, ?_⟩
      rintro now ⟨⟩
      exact holds.clock
  | unusedName found => exact ⟨_, fun _ _ => rfl, holds.takeName document⟩
  | @write unused path content named isDraft =>
      have found : ∃ files, places base document = .ok files := by
        cases isDraft with
        | content found => exact ⟨_, found⟩
        | version found => exact ⟨_, found⟩
      obtain ⟨files, found⟩ := found
      rw [Host.perform]
      cases writes : host.disk.write path content with
      | error error => exact ⟨spots document, fun _ _ => rfl, still⟩
      | ok disk => exact ⟨_, fun _ _ => rfl, holds.write found named isDraft writes⟩
  | @rename source target content drafted isFile =>
      have found : ∃ files, places base document = .ok files := by
        cases isFile with
        | content found => exact ⟨_, found⟩
        | version found => exact ⟨_, found⟩
      obtain ⟨files, found⟩ := found
      rw [Host.perform]
      cases renames : host.disk.rename source target with
      | error error => exact ⟨spots document, fun _ _ => rfl, still⟩
      | ok disk =>
          refine ⟨_, ?_, holds.rename found drafted isFile renames⟩
          intro others again
          rw [sole found again]
          exact ⟨content, drafted, rfl⟩

/-! ## The contract -/

/-- The place of a document while nothing is being written. -/
def spot (base : Path) (host : Host) (document : DocumentId) : Place :=
  match places base document with
  | .ok files => ⟨host.disk.node? files.content, host.disk.node? files.version, none, none⟩
  | .error _ => ⟨none, none, none, none⟩

/-- Whether this is what the disk keeps of a document. -/
def Stores (base : Path) (host : Host) (document : DocumentId) (stored : Option Snapshot) : Prop :=
  (spot base host document).Keeps stored

/-- A tree of files and a supply of names, in a time that has dates. -/
theorem holds_spot (tree : host.disk.IsTree) (supply : IsSupply host.nameOf)
    (clock : Timestamp.InCalendar host.now) : Holds base (spot base host) host := by
  have unused (document : DocumentId) : (spot base host document).unused = none := by
    unfold spot
    split <;> rfl
  have draft (document : DocumentId) : (spot base host document).draft = none := by
    unfold spot
    split <;> rfl
  constructor
  case tree => exact tree
  case supply => exact supply
  case clock => exact clock
  case nodes =>
    intro document files found
    rw [spot, found]
    exact ⟨rfl, rfl⟩
  case placeless =>
    intro document error invalid
    rw [spot, invalid]
    exact ⟨rfl, rfl⟩
  case named =>
    intro document name named
    rw [unused] at named
    cases named
  case apart =>
    intro document other name named
    rw [unused] at named
    cases named
  case drafted =>
    intro document path content drafted
    rw [draft] at drafted
    cases drafted

namespace Holds

theorem agrees (holds : Holds base spots host) (document : DocumentId) :
    (spot base host document).Agrees (spots document) := by
  unfold spot
  split
  · next files found =>
      obtain ⟨content, version⟩ := holds.nodes found
      exact ⟨content.symm, version.symm⟩
  · next error invalid =>
      obtain ⟨content, version⟩ := holds.placeless invalid
      exact ⟨content.symm, version.symm⟩

/-- The clock goes on. -/
theorem tick (holds : Holds base spots host) {now : Instant} (clock : Timestamp.InCalendar now) :
    Holds base spots { host with now := now } where
  tree := holds.tree
  supply := holds.supply
  clock := clock
  nodes := holds.nodes
  placeless := holds.placeless
  named := holds.named
  apart := holds.apart
  drafted := holds.drafted

end Holds

/-- An archive in a directory keeps what it is given, if nobody else writes there. -/
def keeping (base : Path) : (archive base).Keeping Host FileError where
  Place := Place
  rules := rules base
  Holds := Holds base
  Keeps := Place.Keeps
  Fits version := version < versionBound
  Leaves := Leaves
  Happens := Happens
  Drifts host after := ∃ now, Timestamp.InCalendar now ∧ after = { host with now := now }
  stored host document := (spot base host document).stored
  stored_of_keeps holds keeps := (keeps.of_agrees (holds.agrees _)).stored_eq
  holds_of_drifts holds drifts := by
    obtain ⟨now, clock, rfl⟩ := drifts
    exact holds.tick clock
  answered := by
    intro spots host document question failure holds asks happens
    cases failure with
    | some fault =>
        refine ⟨spots document, failed asks (happens fault rfl), ?_⟩
        rw [Function.update_eq_self]
        exact holds
    | none => exact performed holds asks
  load_safe document place := by
    refine (load_safe document place).mono ?_
    rintro result after ⟨rfl, found⟩ stored keeps
    exact ⟨keeps, fun found' equal => found found' stored equal keeps⟩
  version_safe document place := by
    refine (version_safe document place).mono ?_
    rintro result after ⟨rfl, found⟩ stored keeps
    exact ⟨keeps, fun found' equal => found found' stored equal keeps⟩
  save_safe document saved place := save_safe document saved place

end Coedit.Archive.Files
