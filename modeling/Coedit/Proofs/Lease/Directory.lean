import Coedit.Proofs.Disk.Directory
import Coedit.Proofs.Lease.Entries
import Coedit.Proofs.Program.Safe
import Mathlib.Logic.Function.Basic

/-!
# A directory of leases

What the store in a directory does, told by the lease that the file of each key holds.  As
long as no file operation fails, each call does what it would do to a map from keys to
leases.
-/

namespace Coedit.Lease.Files

variable {key other : String} {now : Instant}

/-! ## Books -/

/-- Whether the files of some keys hold the leases of a book, and nothing is in the way of
work in the directory. -/
structure Holds (directory : Path) (keys : Set String) (book : String → Option Entry)
    (host : Host) : Prop where
  isOpen : host.disk.IsOpen directory
  lockFile : host.disk.node? (directory ++ [lockName]) ≠ some .directory
  draftFile (key : String) : host.disk.node? (directory ++ [draftName key]) ≠ some .directory
  entryFile (key : String) (used : key ∈ keys) :
    host.disk.node? (directory ++ [entryName key]) =
      (book key).map fun entry => .file (Bytes.ofText entry.render)
  fits (key : String) (entry : Entry) (kept : book key = some entry) : entry.Fits

variable {directory : Path} {keys : Set String} {book : String → Option Entry} {host : Host}
  {entry : Entry}

/-- In an empty directory there are no leases. -/
theorem Holds.start (isOpen : host.disk.IsOpen directory)
    (clear : ∀ name, host.disk.node? (directory ++ [name]) = none) :
    Holds directory keys (fun _ => none) host where
  isOpen := isOpen
  lockFile := by
    rw [clear]
    nofun
  draftFile key := by
    rw [clear]
    nofun
  entryFile key _ := by
    rw [clear]
    rfl
  fits := nofun

/-- Work in the directory begins once the lock file is there. -/
theorem Holds.locked (holds : Holds directory keys book host) :
    ∃ after, Holds directory keys book after ∧
      ∀ {α : Type} (work : FileProgram (Except StoreError α)),
        (locked directory work).run Host.perform host = work.run Host.perform after := by
  obtain ⟨disk, content, touches, isOpen, put⟩ :=
    holds.isOpen.touch nameError?_lockName holds.lockFile
  have others {name : String} (apart : name ≠ lockName) :
      disk.node? (directory ++ [name]) = host.disk.node? (directory ++ [name]) := by
    rw [put, if_neg (by simpa using apart)]
  refine ⟨{ host with disk := disk }, ⟨isOpen, ?_, ?_, ?_, holds.fits⟩, ?_⟩
  · rw [put, if_pos rfl]
    nofun
  · intro key
    rw [others draftName_ne_lockName]
    exact holds.draftFile key
  · intro key used
    rw [others entryName_ne_lockName]
    exact holds.entryFile key used
  · intro α work
    have touched : (file (.touch (directory ++ [lockName]))).run Host.perform host =
        (.ok (), { host with disk := disk }) := by
      simp [file, Program.run, Host.perform, Host.change, touches]
    have entered : (file (.lock (directory ++ [lockName]))).run Host.perform
        { host with disk := disk } = (.ok (), { host with disk := disk }) := rfl
    rw [Files.locked, Program.run_andThen touched, Program.run_andThen entered]

/-- The lease of a key is read from its file. -/
theorem Holds.readEntry (holds : Holds directory keys book host) (used : key ∈ keys) :
    (readEntry (directory ++ [entryName key])).run Host.perform host = (.ok (book key), host) := by
  have node := holds.entryFile key used
  rw [Files.readEntry, Program.run, Host.perform]
  cases kept : book key with
  | none =>
      rw [kept] at node
      rw [holds.isOpen.read_missing (nameError?_entryName key) node]
      rfl
  | some entry =>
      rw [kept] at node
      rw [holds.isOpen.read_file node]
      simp [Program.run, Entry.ofBytes?_render (holds.fits key entry kept)]

/-- The files hold another book once the file of a key is another and all else is in order. -/
theorem Holds.updated (holds : Holds directory keys book host) (apart : TellsApart keys)
    (used : key ∈ keys) {disk : Disk} {kept : Option Entry} (isOpen : disk.IsOpen directory)
    (lockFile : disk.node? (directory ++ [lockName]) = host.disk.node? (directory ++ [lockName]))
    (draftFile : ∀ other, disk.node? (directory ++ [draftName other]) ≠ some .directory)
    (own : disk.node? (directory ++ [entryName key]) =
      kept.map fun entry => .file (Bytes.ofText entry.render))
    (others : ∀ other, entryName other ≠ entryName key →
      disk.node? (directory ++ [entryName other]) =
        host.disk.node? (directory ++ [entryName other]))
    (fits : ∀ entry, kept = some entry → entry.Fits) :
    Holds directory keys (Function.update book key kept) { host with disk := disk } where
  isOpen := isOpen
  lockFile := lockFile ▸ holds.lockFile
  draftFile := draftFile
  entryFile other usedOther := by
    by_cases same : other = key
    · rw [same, Function.update_self, own]
    · have named : entryName other ≠ entryName key :=
        fun equal => same (apart.entryName_inj usedOther used equal)
      rw [Function.update_of_ne same, others other named]
      exact holds.entryFile other usedOther
  fits other lease found := by
    by_cases same : other = key
    · rw [same, Function.update_self] at found
      exact fits lease found
    · rw [Function.update_of_ne same] at found
      exact holds.fits other lease found

/-- A lease is written as a draft and moved to its place. -/
theorem Holds.writeEntry (holds : Holds directory keys book host) (apart : TellsApart keys)
    (used : key ∈ keys) (fits : entry.Fits) :
    ∃ after, Holds directory keys (Function.update book key (some entry)) after ∧
      (writeEntry (directory ++ [entryName key]) (directory ++ [draftName key]) entry).run
        Host.perform host = (.ok (), after) := by
  obtain ⟨emptied, empties, isOpen, puts⟩ :=
    holds.isOpen.write (nameError?_draftName key) (holds.draftFile key) []
  obtain ⟨filled, fills, isOpen, putsDraft⟩ := isOpen.write (nameError?_draftName key)
    (by rw [puts, if_pos rfl]; nofun) (Bytes.ofText entry.render)
  have place : directory ++ [entryName key] ≠ directory ++ [draftName key] := by
    simpa using entryName_ne_draftName
  have free : filled.node? (directory ++ [entryName key]) ≠ some .directory := by
    rw [putsDraft, if_neg place, puts, if_neg place, holds.entryFile key used]
    cases book key <;> nofun
  obtain ⟨moved, moves, isOpen, putsEntry⟩ := isOpen.rename (nameError?_entryName key)
    (by rw [putsDraft, if_pos rfl]) free
  have others {name : String} (entryApart : name ≠ entryName key) (draftApart : name ≠ draftName key) :
      moved.node? (directory ++ [name]) = host.disk.node? (directory ++ [name]) := by
    have away : directory ++ [name] ≠ directory ++ [draftName key] := by simpa using draftApart
    rw [putsEntry, if_neg (by simpa using entryApart), if_neg away, putsDraft, if_neg away, puts,
      if_neg away]
  have drafts (other : String) : moved.node? (directory ++ [draftName other]) ≠ some .directory := by
    by_cases same : draftName other = draftName key
    · rw [same, putsEntry, if_neg place.symm, if_pos rfl]
      nofun
    · rw [others entryName_ne_draftName.symm same]
      exact holds.draftFile other
  refine ⟨{ host with disk := moved }, holds.updated apart used isOpen ?_ drafts ?_ ?_ ?_, ?_⟩
  · exact others entryName_ne_lockName.symm draftName_ne_lockName.symm
  · rw [putsEntry, if_pos rfl]
    rfl
  · intro other named
    exact others named entryName_ne_draftName
  · rintro lease ⟨⟩
    exact fits
  · have first : (file (.write (directory ++ [draftName key]) [])).run Host.perform host =
        (.ok (), { host with disk := emptied }) := by
      simp [file, Program.run, Host.perform, Host.change, empties]
    have second : (file (.write (directory ++ [draftName key]) (Bytes.ofText entry.render))).run
        Host.perform { host with disk := emptied } = (.ok (), { host with disk := filled }) := by
      simp [file, Program.run, Host.perform, Host.change, fills]
    rw [Files.writeEntry, Program.run_andThen first, Program.run_andThen second]
    simp [file, Program.run, Host.perform, Host.change, moves]

/-- The file of a lease is removed. -/
theorem Holds.removeEntry (holds : Holds directory keys book host) (apart : TellsApart keys)
    (used : key ∈ keys) (kept : book key = some entry) :
    ∃ after, Holds directory keys (Function.update book key none) after ∧
      (removeEntry (directory ++ [entryName key])).run Host.perform host = (.ok (), after) := by
  have present := holds.entryFile key used
  rw [kept, Option.map_some] at present
  obtain ⟨disk, removes, isOpen, gone⟩ := holds.isOpen.remove present
  have others {name : String} (apart : name ≠ entryName key) :
      disk.node? (directory ++ [name]) = host.disk.node? (directory ++ [name]) := by
    rw [gone, if_neg (by simpa using apart)]
  refine ⟨{ host with disk := disk }, holds.updated apart used isOpen ?_ ?_ ?_ ?_ ?_, ?_⟩
  · exact others entryName_ne_lockName.symm
  · intro other
    rw [others entryName_ne_draftName.symm]
    exact holds.draftFile other
  · rw [gone, if_pos rfl]
    rfl
  · intro other named
    exact others named
  · rintro lease ⟨⟩
  · simp [Files.removeEntry, Program.run, Host.perform, Host.change, removes]

/-! ## Calls -/

/-- The lease of a key in a book, unless it has ended. -/
def live? (book : String → Option Entry) (now : Instant) (key : String) : Option Entry :=
  (book key).filter fun entry => (entry.millisLeft? now.millis).isSome

/-- What a call does to a book. -/
def answered (book : String → Option Entry) (now : Instant) :
    Call → Bool × (String → Option Entry)
  | .claim key token ttl =>
      match live? book now key with
      | some _ => (false, book)
      | none => (true, Function.update book key (some (.start token now ttl)))
  | .revoke key token =>
      if (live? book now key).map Entry.token = some token then
        (true, Function.update book key none)
      else (false, book)
  | .check key => ((live? book now key).isSome, book)

/-- The time that the lease of a key in a book still has. -/
def left? (book : String → Option Entry) (now : Instant) (key : String) : Option Duration :=
  ((book key).bind (·.millisLeft? now.millis)).map Duration.ofMillis

theorem live?_eq_some_iff :
    live? book now key = some entry ↔
      book key = some entry ∧ (entry.millisLeft? now.millis).isSome = true := by
  rw [live?, Option.filter_eq_some_iff]

theorem isSome_left? : (left? book now key).isSome = (live? book now key).isSome := by
  unfold left? live?
  cases book key with
  | none => rfl
  | some entry => cases left : entry.millisLeft? now.millis <;> simp [left]

theorem Holds.claim (holds : Holds directory keys book host) (apart : TellsApart keys)
    (used : key ∈ keys) (now : Instant) (token : String) (ttl : Duration) :
    ∃ after, Holds directory keys (answered book now (.claim key token ttl)).2 after ∧
      (claim directory now key token ttl).run Host.perform host =
        (.ok (answered book now (.claim key token ttl)).1, after) := by
  obtain ⟨entered, holds, run⟩ := holds.locked
  obtain ⟨after, written, writes⟩ :=
    holds.writeEntry apart used (Entry.fits_start token now ttl)
  rw [Files.claim, run, Program.run_andThen (holds.readEntry used)]
  cases live : live? book now key with
  | some lease =>
      obtain ⟨kept, running⟩ := live?_eq_some_iff.mp live
      rw [answered, live]
      refine ⟨entered, holds, ?_⟩
      rw [kept]
      dsimp only
      rw [if_pos running]
      rfl
  | none =>
      rw [answered, live]
      refine ⟨after, written, ?_⟩
      cases kept : book key with
      | none =>
          dsimp only
          rw [Program.run_andThen writes]
          rfl
      | some lease =>
          have ended : (lease.millisLeft? now.millis).isSome ≠ true := by
            intro running
            cases live.symm.trans (live?_eq_some_iff.mpr ⟨kept, running⟩)
          dsimp only
          rw [if_neg ended, Program.run_andThen writes]
          rfl

theorem Holds.revoke (holds : Holds directory keys book host) (apart : TellsApart keys)
    (used : key ∈ keys) (now : Instant) (token : String) :
    ∃ after, Holds directory keys (answered book now (.revoke key token)).2 after ∧
      (revoke directory now key token).run Host.perform host =
        (.ok (answered book now (.revoke key token)).1, after) := by
  obtain ⟨entered, holds, run⟩ := holds.locked
  rw [Files.revoke, run, Program.run_andThen (holds.readEntry used)]
  by_cases own : (live? book now key).map Entry.token = some token
  · obtain ⟨entry, live, rfl⟩ := Option.map_eq_some_iff.mp own
    obtain ⟨kept, running⟩ := live?_eq_some_iff.mp live
    obtain ⟨after, removed, removes⟩ := holds.removeEntry apart used kept
    rw [answered, if_pos own]
    refine ⟨after, removed, ?_⟩
    rw [kept]
    dsimp only
    rw [running, if_pos (by simp), Program.run_andThen removes]
    rfl
  · rw [answered, if_neg own]
    refine ⟨entered, holds, ?_⟩
    cases kept : book key with
    | none => rfl
    | some entry =>
        dsimp only
        rw [if_neg]
        · rfl
        · intro both
          rw [Bool.and_eq_true, decide_eq_true_iff] at both
          exact own (Option.map_eq_some_iff.mpr
            ⟨entry, live?_eq_some_iff.mpr ⟨kept, both.2⟩, both.1⟩)

theorem Holds.timeLeft (holds : Holds directory keys book host) (used : key ∈ keys)
    (now : Instant) :
    ∃ after, Holds directory keys book after ∧
      (timeLeft directory now key).run Host.perform host = (.ok (left? book now key), after) := by
  obtain ⟨entered, holds, run⟩ := holds.locked
  refine ⟨entered, holds, ?_⟩
  rw [Files.timeLeft, run, Program.run_andThen (holds.readEntry used)]
  rfl

/-- Every call is answered, and does to the files what it does to the book. -/
theorem Holds.call (holds : Holds directory keys book host) (apart : TellsApart keys)
    (now : Instant) (call : Call) (used : call.key ∈ keys) :
    ∃ after, Holds directory keys (answered book now call).2 after ∧
      Store.call (⟨directory, host⟩ : Directory) now call =
        (.ok (answered book now call).1, ⟨directory, after⟩) := by
  have performed {reply : Reply} {after : Host}
      (runs : (Files.program directory now call).run Host.perform host = (reply, after)) :
      Store.call (⟨directory, host⟩ : Directory) now call = (reply, ⟨directory, after⟩) := by
    simp only [Store.call, Directory.run, runs]
  cases call with
  | claim key token ttl =>
      obtain ⟨after, holds, runs⟩ := holds.claim apart used now token ttl
      exact ⟨after, holds, performed runs⟩
  | revoke key token =>
      obtain ⟨after, holds, runs⟩ := holds.revoke apart used now token
      exact ⟨after, holds, performed runs⟩
  | check key =>
      have looks : Files.program directory now (.check key) =
        (Files.timeLeft directory now key).andThen fun left => .done (.ok left.isSome) := rfl
      have inBook : (answered book now (.check key)).1 = (left? book now key).isSome :=
        isSome_left?.symm
      have used : key ∈ keys := used
      obtain ⟨after, holds, runs⟩ := holds.timeLeft used now
      refine ⟨after, holds, performed ?_⟩
      rw [looks, Program.run_andThen runs, inBook]
      rfl

/-- Asking for the time left changes no lease. -/
theorem Holds.asked (holds : Holds directory keys book host) (now : Instant)
    (used : key ∈ keys) :
    ∃ after, Holds directory keys book after ∧
      Store.timeLeft (⟨directory, host⟩ : Directory) now key =
        (.ok (left? book now key), ⟨directory, after⟩) := by
  obtain ⟨after, holds, runs⟩ := holds.timeLeft used now
  refine ⟨after, holds, ?_⟩
  simp only [Store.timeLeft, Directory.run, runs]

end Coedit.Lease.Files
