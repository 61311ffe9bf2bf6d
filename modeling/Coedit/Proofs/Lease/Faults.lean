import Coedit.Proofs.Lease.Directory
import Coedit.Proofs.Program.Safe

/-!
# Leases on a failing medium

What the calls of a store leave in its directory, whatever the directory holds, if some of
its files cannot be read and any file operation can fail without effect.  A call that ends
with an error leaves the files of all keys alone; any other does to the leases what it would
do to a map, and to the files no more than that.
-/

namespace Coedit

namespace Disk

variable {disk after : Disk} {base path : Path} {content : Bytes}

/-- A walk looks only at what is above its end. -/
theorem walk_congr {rest : Path} {depth : Nat}
    (stems : ∀ stem : Path, stem.length < depth → after.node? stem = disk.node? stem)
    (within : base.length + rest.length ≤ depth) : after.walk base rest = disk.walk base rest := by
  induction rest generalizing base with
  | nil => rfl
  | cons name rest ih =>
      rw [List.length_cons] at within
      have deeper : (base ++ [name]).length + rest.length ≤ depth := by
        rw [List.length_append, List.length_singleton]
        omega
      rw [walk, walk, stems base (by omega), ih deeper]

theorem walk_root_congr
    (stems : ∀ stem : Path, stem.length < path.length → after.node? stem = disk.node? stem) :
    after.walk [] path = disk.walk [] path :=
  walk_congr stems (Nat.le_of_eq (Nat.zero_add _))

/-- Where what is above a path and what it leads to are the same, the same is read. -/
theorem read_congr
    (stems : ∀ stem : Path, stem.length < path.length → after.node? stem = disk.node? stem)
    (own : after.node? path = disk.node? path) : after.read path = disk.read path := by
  rw [read, read, find, find, walk_root_congr stems, own]

/-- A file that is moved within a directory can be read in its place. -/
theorem read_of_rename {source target : Path} (level : source.length = target.length)
    (file : disk.node? source = some (.file content))
    (renames : disk.rename source target = .ok after) : after.read target = .ok content := by
  obtain ⟨-, -, found, moved, put⟩ := rename_ok renames
  obtain rfl : content = found := Node.file.inj (Option.some.inj (file.symm.trans moved))
  have reached : disk.walk [] target = .ok () := by
    unfold rename at renames
    split at renames
    · cases renames
    · split at renames
      · cases renames
      · cases renames
      · next reached => exact (find_ok reached).2
  have stems (stem : Path) (short : stem.length < target.length) :
      after.node? stem = disk.node? stem := by
    rw [put, if_neg, if_neg]
    · rintro rfl
      omega
    · rintro rfl
      omega
  rw [read, find, walk_root_congr stems, reached, put, if_pos rfl]

/-- A file that has been removed is not found. -/
theorem read_of_remove (removes : disk.remove path = .ok after) :
    after.read path = .error .notFound := by
  obtain ⟨⟨content, file⟩, gone⟩ := remove_ok removes
  have reached : disk.walk [] path = .ok () := by
    unfold remove at removes
    split at removes
    · cases removes
    · cases removes
    · cases removes
    · next found => exact (find_ok found).2
  have stems (stem : Path) (short : stem.length < path.length) :
      after.node? stem = disk.node? stem := by
    rw [gone, if_neg]
    rintro rfl
    exact Nat.lt_irrefl _ short
  rw [read_of_missing (by rw [gone, if_pos rfl]), walk_root_congr stems, reached]

theorem read_of_remove_notFound (missing : disk.remove path = .error .notFound) :
    disk.read path = .error .notFound := by
  rw [remove] at missing
  rw [read]
  cases found : disk.find path with
  | error error =>
      rw [found] at missing
      exact congrArg Except.error (Except.error.inj missing)
  | ok node =>
      rw [found] at missing
      cases node with
      | none => rfl
      | some node => cases node <;> cases missing

end Disk

namespace Host

variable {host after last : Host} {paths more : List Path}

/-- Whether two hosts have the same files, except at these paths. -/
def ChangesOnly (paths : List Path) (host after : Host) : Prop :=
  ∀ path, path ∉ paths → after.disk.node? path = host.disk.node? path

theorem ChangesOnly.refl (paths : List Path) (host : Host) : ChangesOnly paths host host :=
  fun _ _ => rfl

theorem ChangesOnly.trans (changes : ChangesOnly paths host after)
    (next : ChangesOnly paths after last) : ChangesOnly paths host last := by
  intro path apart
  rw [next path apart, changes path apart]

theorem ChangesOnly.mono (changes : ChangesOnly paths host after) (among : paths ⊆ more) :
    ChangesOnly more host after :=
  fun path apart => changes path fun mem => apart (among mem)

theorem changesOnly_write {path : Path} {content : Bytes} {disk : Disk}
    (writes : host.disk.write path content = .ok disk) :
    ChangesOnly [path] host { host with disk := disk } := by
  obtain ⟨-, -, put⟩ := Disk.write_ok writes
  intro other apart
  rw [put, if_neg (by simpa using apart)]

theorem changesOnly_touch {path : Path} {disk : Disk} (touches : host.disk.touch path = .ok disk) :
    ChangesOnly [path] host { host with disk := disk } := by
  unfold Disk.touch at touches
  split at touches
  · cases touches
  · cases touches
  · cases touches
    exact .refl _ _
  · exact changesOnly_write touches

theorem changesOnly_rename {source target : Path} {disk : Disk}
    (renames : host.disk.rename source target = .ok disk) :
    ChangesOnly [source, target] host { host with disk := disk } := by
  obtain ⟨-, -, content, -, put⟩ := Disk.rename_ok renames
  intro other apart
  simp only [List.mem_cons, List.not_mem_nil, or_false, not_or] at apart
  rw [put, if_neg apart.2, if_neg apart.1]

theorem changesOnly_remove {path : Path} {disk : Disk}
    (removes : host.disk.remove path = .ok disk) :
    ChangesOnly [path] host { host with disk := disk } := by
  obtain ⟨-, gone⟩ := Disk.remove_ok removes
  intro other apart
  rw [gone, if_neg (by simpa using apart)]

/-- A change that cannot be made leaves the host as it was. -/
theorem change_error {result : Except FileError Disk} {error : FileError}
    (fails : (host.change result).1 = .error error) : (host.change result).2 = host := by
  cases result with
  | ok disk => cases fails
  | error error => rfl

theorem change_ok {result : Except FileError Disk} (works : host.change result = (.ok (), after)) :
    ∃ disk, result = .ok disk ∧ after = { host with disk := disk } := by
  cases result with
  | ok disk =>
      cases works
      exact ⟨disk, rfl, rfl⟩
  | error error => cases works

end Host

namespace Lease.Files

variable {directory path draft : Path} {host after : Host} {key other : String} {now : Instant}

/-! ## Answers -/

/-- A lease that is entered is the one that was asked for. -/
theorem answered_claim_true {book : String → Option Entry} {token : String} {ttl : Duration}
    (taken : (answered book now (.claim key token ttl)).1 = true) :
    (answered book now (.claim key token ttl)).2 key = some (.start token now ttl) := by
  rw [answered] at taken ⊢
  cases live : live? book now key with
  | some lease =>
      rw [live] at taken
      cases taken
  | none => exact Function.update_self ..

/-- A lease that is removed is gone. -/
theorem answered_revoke_true {book : String → Option Entry} {token : String}
    (removed : (answered book now (.revoke key token)).1 = true) :
    (answered book now (.revoke key token)).2 key = none := by
  rw [answered] at removed ⊢
  split at removed
  · next own =>
      rw [if_pos own]
      exact Function.update_self ..
  · cases removed

/-! ## Troubles -/

/-- What is wrong with a medium.  Only a file that is not there is not found: whatever else
is in the way of reading or removing one is told as something else. -/
structure Troubles where
  /-- Why the file at a path can never be read, if it cannot. -/
  unreadable : Path → Option FileError
  /-- How the operation of each number fails, if it does. -/
  fault : Nat → FileCall → Option FileError
  unreadable_candid (path : Path) : unreadable path ≠ some .notFound
  read_candid (number : Nat) (path : Path) : fault number (.read path) ≠ some .notFound
  remove_candid (number : Nat) (path : Path) : fault number (.remove path) ≠ some .notFound

/-- A host whose operations are counted. -/
structure Trial where
  host : Host
  asked : Nat

namespace Troubles

/-- Why an operation fails always, if it does. -/
def lasting (troubles : Troubles) : FileCall → Option FileError
  | .read path => troubles.unreadable path
  | _ => none

/-- Why the operation of a number fails, if it does. -/
def failure? (troubles : Troubles) (number : Nat) (call : FileCall) : Option FileError :=
  (troubles.lasting call).or (troubles.fault number call)

/-- Answer one question, or fail. -/
def answer (troubles : Troubles) (call : FileCall) (trial : Trial) : call.Answer × Trial :=
  let (answer, host) := Host.attempt (troubles.failure? trial.asked call) call trial.host
  (answer, ⟨host, trial.asked + 1⟩)

/-- What a lease file reads as, if nothing more goes wrong. -/
def peruse (troubles : Troubles) (path : Path) (host : Host) : Except StoreError (Option Entry) :=
  ((readEntry path).run (fun call => Host.attempt (troubles.lasting call) call) host).1

/-- What the lease file of a key reads as. -/
def reading (troubles : Troubles) (directory : Path) (host : Host) (key : String) :
    Except StoreError (Option Entry) :=
  troubles.peruse (directory ++ [entryName key]) host

/-- Whether the lease file of a key is as it was, and reads as it did. -/
structure Untouched (troubles : Troubles) (directory : Path) (host after : Host) (key : String) :
    Prop where
  file : after.disk.node? (directory ++ [entryName key]) =
    host.disk.node? (directory ++ [entryName key])
  reads : troubles.reading directory after key = troubles.reading directory host key

variable {troubles : Troubles} {α : Type}

/-- What may be answered: the failure of some number, or what the operation yields. -/
def rules (troubles : Troubles) : Program.Rules Host FileCall FileCall.Answer where
  asks _ _ := True
  answers host call answer after :=
    ∃ number, (answer, after) = Host.attempt (troubles.failure? number call) call host

/-- Whatever holds however a program is answered holds where it ends. -/
theorem post_of_safe {post : α → Host → Prop} {program : FileProgram α} {trial : Trial}
    (safe : program.Safe troubles.rules post trial.host) :
    post (program.run troubles.answer trial).1 (program.run troubles.answer trial).2.host := by
  induction program generalizing trial with
  | done value => exact safe
  | ask call next ih =>
      exact @ih _ ⟨_, trial.asked + 1⟩ (safe.2 _ _ ⟨trial.asked, rfl⟩)

/-! ## Reading -/

/-- What the answer to a reading says about a lease. -/
def entryOf (path : Path) : Except FileError Bytes → Except StoreError (Option Entry)
  | .error .notFound => .ok none
  | .error error => .error (unavailable error)
  | .ok content =>
      match Entry.ofBytes? content with
      | some entry => .ok (some entry)
      | none => .error (.malformed ("corrupt lock entry " ++ path.render ++ ": no lease"))

theorem entryOf_error {error : FileError} (real : error ≠ .notFound) :
    entryOf path (.error error) = .error (unavailable error) := by
  cases error with
  | notFound => contradiction
  | _ => rfl

theorem ne_notFound_of_unreadable {error : FileError}
    (lasting : troubles.unreadable path = some error) : error ≠ .notFound := by
  rintro rfl
  exact troubles.unreadable_candid path lasting

theorem readEntry_eq (path : Path) :
    readEntry path = .ask (.read path) fun answer => .done (entryOf path answer) := by
  refine congrArg (Program.ask (FileCall.read path)) (funext fun answer => ?_)
  cases answer with
  | error error => cases error <;> rfl
  | ok content =>
      dsimp only [entryOf]
      cases Entry.ofBytes? content <;> rfl

/-- What a lease file reads as is told by its content, unless it is unreadable. -/
theorem peruse_eq (troubles : Troubles) (path : Path) (host : Host) :
    troubles.peruse path host =
      entryOf path ((troubles.unreadable path).elim (host.disk.read path) .error) := by
  rw [peruse, readEntry_eq]
  dsimp only [Program.run, lasting, Host.attempt]
  cases troubles.unreadable path <;> rfl

/-- Reading a lease file changes nothing, and a reading that succeeds says what the file
reads as. -/
theorem safe_readEntry (troubles : Troubles) (path : Path) (host : Host) :
    (readEntry path).Safe troubles.rules
      (fun result after => after = host ∧
        ∀ found, result = .ok found → troubles.peruse path host = .ok found) host := by
  rw [readEntry_eq]
  refine ⟨trivial, ?_⟩
  rintro answer after ⟨number, answered⟩
  cases fails : troubles.failure? number (.read path) with
  | some error =>
      have real : error ≠ .notFound := by
        rcases Option.or_eq_some_iff.mp fails with lasting | ⟨-, fault⟩
        · exact ne_notFound_of_unreadable lasting
        · rintro rfl
          exact troubles.read_candid number path fault
      rw [fails] at answered
      cases answered
      refine ⟨rfl, fun found told => ?_⟩
      rw [entryOf_error real] at told
      cases told
  | none =>
      have readable : troubles.unreadable path = none := (Option.or_eq_none_iff.mp fails).1
      rw [fails] at answered
      cases answered
      refine ⟨rfl, fun found told => ?_⟩
      rw [peruse_eq, readable]
      exact told

/-- A lease file reads as before if nothing has changed on the way to it. -/
theorem peruse_congr {paths : List Path} (changes : Host.ChangesOnly paths host after)
    (level : ∀ other ∈ paths, path.length ≤ other.length) (apart : path ∉ paths) :
    troubles.peruse path after = troubles.peruse path host := by
  have stems (stem : Path) (short : stem.length < path.length) :
      after.disk.node? stem = host.disk.node? stem :=
    changes stem fun mem => absurd (level stem mem) (Nat.not_le.mpr short)
  rw [peruse_eq, peruse_eq, Disk.read_congr stems (changes path apart)]

/-! ## Changing -/

/-- The answer to an operation is a failure without effect or what the operation yields. -/
theorem safe_file {call : FileCall} {post : Except StoreError call.Result → Host → Prop}
    (steady : ∀ error, (host.perform call).1 = .error error → (host.perform call).2 = host)
    (fails : ∀ error, post (.error error) host)
    (works : ∀ result after, host.perform call = (.ok result, after) → post (.ok result) after) :
    (file call).Safe troubles.rules post host := by
  refine ⟨trivial, ?_⟩
  rintro answer after ⟨number, answered⟩
  cases failed : troubles.failure? number call with
  | some error =>
      rw [failed] at answered
      cases answered
      exact fails _
  | none =>
      rw [failed] at answered
      have performs : host.perform call = (answer, after) := answered.symm
      cases answer with
      | error error =>
          have same := steady error (by rw [performs])
          rw [performs] at same
          cases same
          exact fails _
      | ok result => exact works result after performs

theorem safe_touch {post : Except StoreError Unit → Host → Prop}
    (fails : ∀ error, post (.error error) host)
    (works : ∀ disk, host.disk.touch path = .ok disk → post (.ok ()) { host with disk := disk }) :
    (file (.touch path)).Safe troubles.rules post host := by
  refine safe_file (fun _ => Host.change_error) fails ?_
  rintro ⟨⟩ after performs
  obtain ⟨disk, touches, rfl⟩ := Host.change_ok performs
  exact works disk touches

theorem safe_write {content : Bytes} {post : Except StoreError Unit → Host → Prop}
    (fails : ∀ error, post (.error error) host)
    (works : ∀ disk, host.disk.write path content = .ok disk →
      post (.ok ()) { host with disk := disk }) :
    (file (.write path content)).Safe troubles.rules post host := by
  refine safe_file (fun _ => Host.change_error) fails ?_
  rintro ⟨⟩ after performs
  obtain ⟨disk, writes, rfl⟩ := Host.change_ok performs
  exact works disk writes

theorem safe_rename {source target : Path} {post : Except StoreError Unit → Host → Prop}
    (fails : ∀ error, post (.error error) host)
    (works : ∀ disk, host.disk.rename source target = .ok disk →
      post (.ok ()) { host with disk := disk }) :
    (file (.rename source target)).Safe troubles.rules post host := by
  refine safe_file (fun _ => Host.change_error) fails ?_
  rintro ⟨⟩ after performs
  obtain ⟨disk, renames, rfl⟩ := Host.change_ok performs
  exact works disk renames

/-- A lease is in its place as a whole, or nothing but its draft has been changed. -/
theorem safe_writeEntry (troubles : Troubles) (level : draft.length = path.length) (entry : Entry)
    (host : Host) :
    (writeEntry path draft entry).Safe troubles.rules
      (fun result after =>
        match result with
        | .error _ => Host.ChangesOnly [draft] host after
        | .ok () => Host.ChangesOnly [draft, path] host after ∧
            after.disk.read path = .ok (Bytes.ofText entry.render)) host := by
  refine Program.Safe.andThen (safe_write (fun _ => .refl _ _) fun emptied empties => ?_)
  have emptying := Host.changesOnly_write empties
  refine Program.Safe.andThen (safe_write (fun _ => emptying) fun filled fills => ?_)
  have filling := emptying.trans (Host.changesOnly_write fills)
  refine safe_rename (fun _ => filling) fun moved moves => ⟨?_, ?_⟩
  · exact (filling.mono (by simp)).trans (Host.changesOnly_rename moves)
  · obtain ⟨-, -, put⟩ := Disk.write_ok fills
    exact Disk.read_of_rename level (by rw [put, if_pos rfl]) moves

/-- A lease file cannot be found any more, or nothing has been changed. -/
theorem safe_removeEntry (troubles : Troubles) (path : Path) (host : Host) :
    (removeEntry path).Safe troubles.rules
      (fun result after =>
        match result with
        | .error _ => after = host
        | .ok () => Host.ChangesOnly [path] host after ∧
            after.disk.read path = .error .notFound) host := by
  refine ⟨trivial, ?_⟩
  rintro answer after ⟨number, answered⟩
  cases failed : troubles.failure? number (.remove path) with
  | some error =>
      rw [failed] at answered
      cases answered
      cases error with
      | notFound => exact absurd failed (troubles.remove_candid number path)
      | _ => rfl
  | none =>
      rw [failed] at answered
      have performs : host.change (host.disk.remove path) = (answer, after) := answered.symm
      cases removes : host.disk.remove path with
      | ok disk =>
          rw [removes] at performs
          cases performs
          exact ⟨Host.changesOnly_remove removes, Disk.read_of_remove removes⟩
      | error error =>
          rw [removes] at performs
          cases performs
          cases error with
          | notFound => exact ⟨.refl _ _, Disk.read_of_remove_notFound removes⟩
          | _ => rfl

/-- Who enters has changed nothing but the lock file. -/
theorem safe_locked {work : FileProgram (Except StoreError α)}
    {post : Except StoreError α → Host → Prop}
    (fails : ∀ error entered, Host.ChangesOnly [directory ++ [lockName]] host entered →
      post (.error error) entered)
    (works : ∀ entered, Host.ChangesOnly [directory ++ [lockName]] host entered →
      work.Safe troubles.rules post entered) :
    (locked directory work).Safe troubles.rules post host := by
  refine Program.Safe.andThen
    (safe_touch (fun error => fails error host (.refl _ _)) fun disk touches => ?_)
  have entering := Host.changesOnly_touch touches
  refine Program.Safe.andThen (safe_file (fun _ _ => rfl) (fun error => fails error _ entering) ?_)
  rintro result after performs
  cases performs
  exact works _ entering

/-! ## Calls -/

/-- The files that a call on a key may change before it changes the lease. -/
def beside (directory : Path) (key : String) : List Path :=
  [directory ++ [lockName], directory ++ [draftName key]]

/-- Changes beside a lease file are no changes of any lease file. -/
theorem untouched_of_beside
    (changes : Host.ChangesOnly (beside directory key) host after) (other : String) :
    troubles.Untouched directory host after other := by
  have apart : directory ++ [entryName other] ∉ beside directory key := by
    simp [beside, entryName_ne_lockName, entryName_ne_draftName]
  exact ⟨changes _ apart, peruse_congr changes (by simp [beside]) apart⟩

/-- Changing the lease file of a key changes no lease file of another name. -/
theorem untouched_of_apart
    (changes : Host.ChangesOnly ((directory ++ [entryName key]) :: beside directory key) host after)
    (named : entryName other ≠ entryName key) : troubles.Untouched directory host after other := by
  have apart : directory ++ [entryName other] ∉
      (directory ++ [entryName key]) :: beside directory key := by
    simp [beside, named, entryName_ne_lockName, entryName_ne_draftName]
  exact ⟨changes _ apart, peruse_congr changes (by simp [beside]) apart⟩

/-- How a call can end: an error leaves all lease files alone; otherwise the lease file of
the key could be read, the call is answered from what it read as, the file then reads as the
answer wants it, and all lease files are left alone that the answer is not about. -/
def Settles (troubles : Troubles) (directory : Path) (now : Instant) (call : Call)
    (host after : Host) : Reply → Prop
  | .error _ => ∀ other, troubles.Untouched directory host after other
  | .ok value => ∃ found,
      troubles.reading directory host call.key = .ok found ∧
      value = (answered (fun _ => found) now call).1 ∧
      troubles.reading directory after call.key =
        .ok ((answered (fun _ => found) now call).2 call.key) ∧
      ∀ other, value = false ∨ call.token? = none ∨ entryName other ≠ entryName call.key →
        troubles.Untouched directory host after other

/-- Work behind the lock file begins with reading a lease. -/
theorem safe_read {post : Except StoreError α → Host → Prop}
    {next : Option Entry → FileProgram (Except StoreError α)}
    (fails : ∀ error after, Host.ChangesOnly (beside directory key) host after →
      post (.error error) after)
    (works : ∀ found after, Host.ChangesOnly (beside directory key) host after →
      troubles.reading directory host key = .ok found →
        (next found).Safe troubles.rules post after) :
    (locked directory ((readEntry (directory ++ [entryName key])).andThen next)).Safe
      troubles.rules post host := by
  have near {after : Host} (changes : Host.ChangesOnly [directory ++ [lockName]] host after) :
      Host.ChangesOnly (beside directory key) host after := changes.mono (by simp [beside])
  refine safe_locked (fun error entered changes => fails error entered (near changes)) ?_
  intro entered changes
  refine Program.Safe.andThen ((safe_readEntry troubles _ entered).mono ?_)
  rintro result after ⟨rfl, reads⟩
  cases result with
  | error error => exact fails error after (near changes)
  | ok found =>
      refine works found after (near changes) ?_
      rw [← (untouched_of_beside (near changes) key).reads]
      exact reads found rfl

/-- A call that changes nothing is answered from what the lease file reads as. -/
theorem settles_of_beside {call : Call} {found : Option Entry} {value : Bool}
    (changes : Host.ChangesOnly (beside directory call.key) host after)
    (reads : troubles.reading directory host call.key = .ok found)
    (answers : answered (fun _ => found) now call = (value, fun _ => found)) :
    troubles.Settles directory now call host after (.ok value) := by
  refine ⟨found, reads, by rw [answers], ?_, fun other _ => untouched_of_beside changes other⟩
  rw [(untouched_of_beside changes call.key).reads, reads, answers]

/-- A call that changes the lease file of its key leaves what can be read there then. -/
theorem settles_of_changed {call : Call} {found : Option Entry} {held : Except FileError Bytes}
    (changes : Host.ChangesOnly
      ((directory ++ [entryName call.key]) :: beside directory call.key) host after)
    (reads : troubles.reading directory host call.key = .ok found) (named : call.token? ≠ none)
    (answers : (answered (fun _ => found) now call).1 = true)
    (holds : after.disk.read (directory ++ [entryName call.key]) = held)
    (tells : entryOf (directory ++ [entryName call.key]) held =
      .ok ((answered (fun _ => found) now call).2 call.key)) :
    troubles.Settles directory now call host after (.ok true) := by
  have readable : troubles.unreadable (directory ++ [entryName call.key]) = none := by
    cases lasting : troubles.unreadable (directory ++ [entryName call.key]) with
    | none => rfl
    | some error =>
        rw [reading, peruse_eq, lasting, Option.elim_some,
          entryOf_error (ne_notFound_of_unreadable lasting)] at reads
        cases reads
  refine ⟨found, reads, answers.symm, ?_, ?_⟩
  · rw [reading, peruse_eq, readable, Option.elim_none, holds, tells]
  · rintro other (spared | spared | apart)
    · cases spared
    · exact absurd spared named
    · exact untouched_of_apart changes apart

theorem safe_claim (troubles : Troubles) (directory : Path) (now : Instant) (key token : String)
    (ttl : Duration) (host : Host) :
    (claim directory now key token ttl).Safe troubles.rules (fun reply after =>
      troubles.Settles directory now (.claim key token ttl) host after reply) host := by
  refine safe_read (fun error after changes => untouched_of_beside changes) ?_
  intro found entered changes reads
  have enters (idle : live? (fun _ => found) now key = none) :
      ((writeEntry (directory ++ [entryName key]) (directory ++ [draftName key])
        (.start token now ttl)).andThen fun _ => .done (.ok true)).Safe troubles.rules
        (fun reply after =>
          troubles.Settles directory now (.claim key token ttl) host after reply) entered := by
    have answers : answered (fun _ => found) now (.claim key token ttl) =
        (true, Function.update (fun _ => found) key (some (.start token now ttl))) := by
      rw [answered, idle]
    have level : (directory ++ [draftName key]).length = (directory ++ [entryName key]).length := by
      simp
    refine Program.Safe.andThen ((safe_writeEntry troubles level _ entered).mono ?_)
    intro result after written
    cases result with
    | error error =>
        exact untouched_of_beside (changes.trans (written.mono (by simp [beside])))
    | ok done =>
        obtain ⟨writing, holds⟩ := written
        refine settles_of_changed ?_ reads (Option.some_ne_none token) (by rw [answers]) holds ?_
        · exact (changes.mono (by simp [Call.key])).trans
            (writing.mono (by simp [beside, Call.key]))
        · rw [answers, entryOf, Entry.ofBytes?_render (Entry.fits_start token now ttl)]
          dsimp only [Call.key]
          rw [Function.update_self]
  cases found with
  | none => exact enters rfl
  | some entry =>
      dsimp only
      split
      · next running =>
          have live : live? (fun _ => some entry) now key = some entry :=
            live?_eq_some_iff.mpr ⟨rfl, running⟩
          exact settles_of_beside changes reads (by rw [answered, live])
      · next ended =>
          refine enters ?_
          cases live : live? (fun _ => some entry) now key with
          | none => rfl
          | some lease =>
              obtain ⟨⟨⟩, running⟩ := live?_eq_some_iff.mp live
              exact absurd running ended

theorem safe_revoke (troubles : Troubles) (directory : Path) (now : Instant) (key token : String)
    (host : Host) :
    (revoke directory now key token).Safe troubles.rules (fun reply after =>
      troubles.Settles directory now (.revoke key token) host after reply) host := by
  refine safe_read (fun error after changes => untouched_of_beside changes) ?_
  intro found entered changes reads
  have keeps (foreign : (live? (fun _ => found) now key).map Entry.token ≠ some token) :
      troubles.Settles directory now (.revoke key token) host entered (.ok false) :=
    settles_of_beside changes reads (by rw [answered, if_neg foreign])
  cases found with
  | none => exact keeps (Option.some_ne_none token).symm
  | some entry =>
      dsimp only
      split
      · next both =>
          rw [Bool.and_eq_true, decide_eq_true_iff] at both
          have live : live? (fun _ => some entry) now key = some entry :=
            live?_eq_some_iff.mpr ⟨rfl, both.2⟩
          have answers : answered (fun _ => some entry) now (.revoke key token) =
              (true, Function.update (fun _ => some entry) key none) := by
            rw [answered, live, Option.map_some, both.1, if_pos rfl]
          refine Program.Safe.andThen ((safe_removeEntry troubles _ entered).mono ?_)
          intro result after removed
          cases result with
          | error error =>
              obtain rfl : after = entered := removed
              exact untouched_of_beside changes
          | ok done =>
              obtain ⟨removing, gone⟩ := removed
              refine settles_of_changed ?_ reads (Option.some_ne_none token) (by rw [answers])
                gone ?_
              · exact (changes.mono (by simp [Call.key])).trans
                  (removing.mono (by simp [Call.key]))
              · rw [answers, entryOf]
                dsimp only [Call.key]
                rw [Function.update_self]
      · next neither =>
          refine keeps fun own => neither ?_
          obtain ⟨lease, live, rfl⟩ := Option.map_eq_some_iff.mp own
          obtain ⟨⟨⟩, running⟩ := live?_eq_some_iff.mp live
          rw [running, decide_eq_true rfl]
          rfl

/-- Looking for the time left changes no lease file, and what is told is what the file of
the key reads as. -/
theorem safe_timeLeft (troubles : Troubles) (directory : Path) (now : Instant) (key : String)
    (host : Host) :
    (timeLeft directory now key).Safe troubles.rules (fun result after =>
      Host.ChangesOnly (beside directory key) host after ∧
        ∀ left, result = .ok left → ∃ found, troubles.reading directory host key = .ok found ∧
          left = left? (fun _ => found) now key) host := by
  refine safe_read (fun error after changes => ⟨changes, nofun⟩) ?_
  intro found after changes reads
  refine ⟨changes, ?_⟩
  rintro left ⟨⟩
  exact ⟨found, reads, rfl⟩

/-- Every call settles. -/
theorem safe_program (troubles : Troubles) (directory : Path) (now : Instant) (call : Call)
    (host : Host) :
    (Files.program directory now call).Safe troubles.rules (fun reply after =>
      troubles.Settles directory now call host after reply) host := by
  cases call with
  | claim key token ttl => exact safe_claim troubles directory now key token ttl host
  | revoke key token => exact safe_revoke troubles directory now key token host
  | check key =>
      refine Program.Safe.andThen ((safe_timeLeft troubles directory now key host).mono ?_)
      rintro result after ⟨changes, tells⟩
      cases result with
      | error error => exact untouched_of_beside changes
      | ok left =>
          obtain ⟨found, reads, rfl⟩ := tells left rfl
          exact settles_of_beside changes reads (by rw [answered, isSome_left?])

/-! ## What settles -/

/-- A call that fails, is refused or only looks leaves the files of all keys alone. -/
theorem Settles.spares {now : Instant} {call : Call} {after : Host} {reply : Reply}
    (settled : troubles.Settles directory now call host after reply)
    (spared : (∃ error, reply = .error error) ∨ reply = .ok false ∨ call.token? = none)
    (key : String) : troubles.Untouched directory host after key := by
  cases reply with
  | error error => exact settled key
  | ok value =>
      obtain ⟨found, -, -, -, others⟩ := settled
      refine others key ?_
      rcases spared with ⟨error, ⟨⟩⟩ | ⟨⟨⟩⟩ | plain
      · exact .inl rfl
      · exact .inr (.inl plain)

/-- A call that succeeds leaves the leases of other keys alone, and its own key has the lease
that was claimed, or none that was revoked. -/
theorem Settles.changes {now : Instant} {keys : Set String} {call : Call} {after : Host}
    (settled : troubles.Settles directory now call host after (.ok true))
    (apart : TellsApart keys) (used : call.key ∈ keys) :
    (∀ key ∈ keys, key ≠ call.key → troubles.Untouched directory host after key) ∧
      (∀ token ttl, call = .claim call.key token ttl →
        troubles.reading directory after call.key = .ok (some (.start token now ttl))) ∧
      ∀ token, call = .revoke call.key token →
        troubles.reading directory after call.key = .ok none := by
  obtain ⟨found, -, answers, reads, others⟩ := settled
  refine ⟨?_, ?_, ?_⟩
  · intro key usedKey different
    exact others key (.inr (.inr fun same => different (apart.entryName_inj usedKey used same)))
  · intro token ttl claims
    obtain ⟨key, rfl⟩ : ∃ key, call = .claim key token ttl := ⟨_, claims⟩
    rw [reads]
    exact congrArg Except.ok (answered_claim_true answers.symm)
  · intro token revokes
    obtain ⟨key, rfl⟩ : ∃ key, call = .revoke key token := ⟨_, revokes⟩
    rw [reads]
    exact congrArg Except.ok (answered_revoke_true answers.symm)

/-- A call on a key whose lease file cannot be read fails. -/
theorem Settles.fails {now : Instant} {call : Call} {after : Host} {reply : Reply}
    {error : StoreError} (settled : troubles.Settles directory now call host after reply)
    (reads : troubles.reading directory host call.key = .error error) :
    ∃ error, reply = .error error := by
  cases reply with
  | error error => exact ⟨error, rfl⟩
  | ok value =>
      obtain ⟨found, readable, -⟩ := settled
      cases reads.symm.trans readable

/-! ## Damaged files -/

/-- Whether the lease file of a key is unreadable, a directory, or holds no lease. -/
inductive Damaged (troubles : Troubles) (directory : Path) (host : Host) (key : String) : Prop where
  | unreadable {error : FileError}
      (lasting : troubles.unreadable (directory ++ [entryName key]) = some error)
  | directory (blocked : host.disk.node? (directory ++ [entryName key]) = some .directory)
  | corrupt {content : Bytes}
      (file : host.disk.node? (directory ++ [entryName key]) = some (.file content))
      (senseless : Entry.ofBytes? content = none)

/-- A damaged file reads as an error, never as an absent lease. -/
theorem Damaged.reading (damaged : troubles.Damaged directory host key)
    (tree : host.disk.IsTree) (named : host.disk.IsNamed) :
    ∃ error, troubles.reading directory host key = .error error := by
  rw [Troubles.reading, peruse_eq]
  cases lasting : troubles.unreadable (directory ++ [entryName key]) with
  | some error =>
      exact ⟨_, entryOf_error (ne_notFound_of_unreadable lasting)⟩
  | none =>
      rw [Option.elim_none]
      cases damaged with
      | unreadable broken => cases lasting.symm.trans broken
      | directory blocked =>
          have present : host.disk.node? ([] ++ (directory ++ [entryName key])) ≠ none := by
            rw [List.nil_append, blocked]
            simp
          rw [Disk.read, Disk.find, Disk.walk_of_present tree named present, blocked]
          exact ⟨_, rfl⟩
      | corrupt file senseless =>
          rw [Disk.read_of_file tree named file, entryOf, senseless]
          exact ⟨_, rfl⟩

/-- Whatever the directory holds and wherever an operation fails: a call that ends with an
error, that is refused or that only looks leaves the files of all keys alone, and one that
succeeds changes just the lease of its key, as a whole.  While the lease file of a key is
damaged every call on it fails and leaves the file as it is. -/
theorem all_or_nothing (troubles : Troubles) (directory : Path) (host : Host) (now : Instant)
    {keys : Set String} (apart : TellsApart keys) (call : Call) (used : call.key ∈ keys) :
    let ended := (Files.program directory now call).run troubles.answer ⟨host, 0⟩
    let looked := (Files.timeLeft directory now call.key).run troubles.answer ⟨host, 0⟩
    ((∃ error, ended.1 = .error error) ∨ ended.1 = .ok false ∨ call.token? = none →
      ∀ key, troubles.Untouched directory host ended.2.host key) ∧
    (∀ key, troubles.Untouched directory host looked.2.host key) ∧
    (ended.1 = .ok true →
      (∀ key ∈ keys, key ≠ call.key → troubles.Untouched directory host ended.2.host key) ∧
      (∀ token ttl, call = .claim call.key token ttl →
        troubles.reading directory ended.2.host call.key = .ok (some (.start token now ttl))) ∧
      ∀ token, call = .revoke call.key token →
        troubles.reading directory ended.2.host call.key = .ok none) ∧
    ((∃ error, troubles.reading directory host call.key = .error error) →
      (∃ error, ended.1 = .error error) ∧ (∃ error, looked.1 = .error error) ∧
      troubles.Untouched directory host ended.2.host call.key) ∧
    (host.disk.IsTree → host.disk.IsNamed → troubles.Damaged directory host call.key →
      ∃ error, troubles.reading directory host call.key = .error error) := by
  intro ended looked
  have settled : troubles.Settles directory now call host ended.2.host ended.1 :=
    @post_of_safe _ _ _ _ ⟨host, 0⟩ (safe_program troubles directory now call host)
  obtain ⟨looking, tells⟩ :=
    @post_of_safe _ _ _ _ ⟨host, 0⟩ (safe_timeLeft troubles directory now call.key host)
  refine ⟨settled.spares, untouched_of_beside looking, ?_, ?_,
    fun tree named damaged => damaged.reading tree named⟩
  · intro ends
    rw [ends] at settled
    exact settled.changes apart used
  · rintro ⟨error, reads⟩
    have looksInVain : ∃ error, looked.1 = .error error := by
      cases ends : looked.1 with
      | error error => exact ⟨error, rfl⟩
      | ok left =>
          obtain ⟨found, readable, -⟩ := tells left ends
          cases reads.symm.trans readable
    have failed := settled.fails reads
    exact ⟨failed, looksInVain, settled.spares (.inl failed) call.key⟩

/-- A medium on which the sixth operation fails. -/
def brittle : Troubles where
  unreadable _ := none
  fault number _ := if number = 5 then some .broken else none
  unreadable_candid _ := nofun
  read_candid number _ := by split <;> nofun
  remove_candid number _ := by split <;> nofun

/-- A directory in which one lease file holds no lease. -/
def spoiled : Host where
  disk := ⟨Disk.empty.nodes.insert [entryName "plans"] (.file (Bytes.ofText "not json"))⟩
  now := ⟨0⟩
  nameOf := toString
  namesUsed := 0

/-- A claim that cannot move its lease to its place leaves all as it was, and a corrupt file
grants no lease. -/
theorem all_or_nothing_spoiled :
    ((Files.program [] ⟨0⟩ (.claim "minutes" "me" ⟨5000000⟩)).run brittle.answer
        ⟨spoiled, 0⟩).1 = .error (unavailable .broken) ∧
      brittle.Untouched [] spoiled ((Files.program [] ⟨0⟩ (.claim "minutes" "me" ⟨5000000⟩)).run
        brittle.answer ⟨spoiled, 0⟩).2.host "minutes" ∧
      ∃ error, ((Files.program [] ⟨0⟩ (.claim "plans" "me" ⟨5000000⟩)).run brittle.answer
        ⟨spoiled, 0⟩).1 = .error error := by
  have single (key : String) : TellsApart {key} := by
    rintro one rfl other rfl -
    rfl
  have fails : ((Files.program [] ⟨0⟩ (.claim "minutes" "me" ⟨5000000⟩)).run brittle.answer
      ⟨spoiled, 0⟩).1 = .error (unavailable .broken) := by decide +kernel
  have corrupt : ∃ error, brittle.reading [] spoiled "plans" = .error error := by
    have present :
        spoiled.disk.read ([] ++ [entryName "plans"]) = .ok (Bytes.ofText "not json") := by
      decide +kernel
    have senseless : Entry.ofBytes? (Bytes.ofText "not json") = none := by decide +kernel
    have readable : brittle.unreadable ([] ++ [entryName "plans"]) = none := rfl
    rw [reading, peruse_eq, readable, Option.elim_none, present, entryOf, senseless]
    exact ⟨_, rfl⟩
  obtain ⟨spares, -⟩ :=
    all_or_nothing brittle [] spoiled ⟨0⟩ (single "minutes") (.claim "minutes" "me" ⟨5000000⟩) rfl
  obtain ⟨-, -, -, bars, -⟩ :=
    all_or_nothing brittle [] spoiled ⟨0⟩ (single "plans") (.claim "plans" "me" ⟨5000000⟩) rfl
  exact ⟨fails, spares (.inl ⟨_, fails⟩) "minutes", (bars corrupt).1⟩

end Troubles

end Lease.Files

end Coedit
