import Coedit.Lease.Memory
import Coedit.Proofs.Lease.Directory
import Mathlib.Data.Set.Card

/-!
# Lease stores as one map

A lease store is a map from keys to leases in which a lease counts as absent from its end
on.  The store in memory and the store in a directory answer every sequence of questions as
this map does, whoever of those that share the directory is asked.
-/

namespace Coedit.Lease

/-! ## Questions and answers -/

/-- What a lease store can be asked. -/
inductive Question where
  | call (asked : Call)
  /-- How long is the lease of the key still live? -/
  | timeLeft (key : String)
  /-- Forget the leases that have ended: how many were there? -/
  | purge
  deriving DecidableEq, Repr

inductive Answer where
  | said (reply : Reply)
  | left (time : Except StoreError (Option Duration))
  | purged (count : Nat)
  deriving DecidableEq

/-- The key a question is about. -/
def Question.key? : Question → Option String
  | .call asked => some asked.key
  | .timeLeft key => some key
  | .purge => none

/-- How long the lease is to last that a question asks for. -/
def Question.ttl : Question → Duration
  | .call (.claim _ _ ttl) => ttl
  | _ => .zero

/-- A question that is put to one of the stores that share their leases. -/
structure Turn where
  store : Nat
  now : Instant
  question : Question
  deriving DecidableEq, Repr

/-- Whether a turn is about leases, and not about how they are kept. -/
def Turn.isPlain (turn : Turn) : Bool := turn.question != .purge

def Answer.isPlain : Answer → Bool
  | .purged _ => false
  | _ => true

/-- The answers to some turns, one after the other. -/
def converse {σ : Type} (ask : σ → Turn → Answer × σ) (state : σ) : List Turn → List Answer
  | [] => []
  | turn :: later => (ask state turn).1 :: converse ask (ask state turn).2 later

/-- The keys that some turns are about. -/
def keysOf (history : List Turn) : Set String :=
  { key | ∃ turn ∈ history, turn.question.key? = some key }

/-- Turns whose times never go back and are told, as all lengths of time, in whole
milliseconds of which a file can hold every number that comes up. -/
structure Timely (history : List Turn) : Prop where
  ordered : history.Pairwise fun turn later => turn.now ≤ later.now
  whole : ∀ turn ∈ history,
    1000000 ∣ turn.now.nanos ∧ 1000000 ∣ turn.question.ttl.nanos
  fits : ∀ turn ∈ history, (turn.now.later turn.question.ttl).millis < 2 ^ 63

/-- States that are alike and answer alike on every turn give the same answers. -/
theorem converse_eq {σ τ : Type} {ask : σ → Turn → Answer × σ} {ask' : τ → Turn → Answer × τ}
    (alike : σ → τ → Prop) {history : List Turn}
    (step : ∀ turn ∈ history, ∀ state state', alike state state' →
      (ask state turn).1 = (ask' state' turn).1 ∧
        alike (ask state turn).2 (ask' state' turn).2)
    {state : σ} {state' : τ} (start : alike state state') :
    converse ask state history = converse ask' state' history := by
  induction history generalizing state state' with
  | nil => rfl
  | cons turn later ih =>
      obtain ⟨same, onward⟩ := step turn List.mem_cons_self state state' start
      rw [converse, converse, same,
        ih (fun next member => step next (List.mem_cons_of_mem turn member)) onward]

/-! ## The map -/

/-- A map from keys to leases. -/
abbrev Book := String → Option Entry

namespace Book

def blank : Book := fun _ => none

/-- The lease of a key that has not ended. -/
def live? (book : Book) (now : Instant) (key : String) : Option Entry :=
  (book key).filter fun lease => decide (now < lease.ends)

/-- The keys whose leases have ended. -/
def ended (book : Book) (now : Instant) : Set String :=
  { key | ∃ lease, book key = some lease ∧ lease.ends ≤ now }

/-- The answer of the map to a turn, and the map afterwards. -/
noncomputable def ask (book : Book) (turn : Turn) : Answer × Book :=
  match turn.question with
  | .call (.claim key token ttl) =>
      match book.live? turn.now key with
      | some _ => (.said (.ok false), book)
      | none =>
          (.said (.ok true),
            Function.update book key (some ⟨token, turn.now.later ttl⟩))
  | .call (.revoke key token) =>
      if (book.live? turn.now key).map Entry.token = some token then
        (.said (.ok true), Function.update book key none)
      else (.said (.ok false), book)
  | .call (.check key) => (.said (.ok (book.live? turn.now key).isSome), book)
  | .timeLeft key =>
      (.left (.ok ((book.live? turn.now key).map fun lease => lease.ends.since turn.now)), book)
  | .purge => (.purged (book.ended turn.now).ncard, book.live? turn.now)

variable {book other : Book} {now later : Instant} {key : String} {lease : Entry}

theorem live?_eq_some_iff :
    book.live? now key = some lease ↔ book key = some lease ∧ now < lease.ends := by
  rw [live?, Option.filter_eq_some_iff, decide_eq_true_iff]

/-- What has not ended later has not ended before. -/
theorem live?_live? (onward : now ≤ later) :
    Book.live? (book.live? now) later key = book.live? later key := by
  ext lease
  rw [live?_eq_some_iff, live?_eq_some_iff, live?_eq_some_iff]
  constructor
  · rintro ⟨⟨kept, -⟩, running⟩
    exact ⟨kept, running⟩
  · rintro ⟨kept, running⟩
    exact ⟨⟨kept, Nat.lt_of_le_of_lt onward running⟩, running⟩

theorem live?_update (kept : Option Entry) (target : String) :
    Book.live? (Function.update book target kept) now key =
      if key = target then kept.filter (fun lease => decide (now < lease.ends))
      else book.live? now key := by
  unfold live?
  by_cases same : key = target
  · rw [if_pos same, same, Function.update_self]
  · rw [if_neg same, Function.update_of_ne same]

/-! ### Purging -/

/-- Maps between which nobody can tell from some time on. -/
def Alike (now : Instant) (book other : Book) : Prop :=
  ∀ later, now ≤ later → ∀ key, book.live? later key = other.live? later key

theorem Alike.onward (alike : Alike now book other) (onward : now ≤ later) :
    Alike later book other :=
  fun time after => alike time (Nat.le_trans onward after)

theorem Alike.update (alike : Alike now book other) (target : String) (kept : Option Entry) :
    Alike now (Function.update book target kept) (Function.update other target kept) := by
  intro later onward key
  rw [live?_update, live?_update, alike later onward key]

theorem Alike.purged (alike : Alike now book other) : Alike now (book.live? now) other := by
  intro later onward key
  rw [live?_live? onward, alike later onward key]

/-- Maps that are alike answer alike and stay alike. -/
theorem Alike.ask {turn : Turn} (alike : Alike turn.now book other)
    (plain : turn.isPlain = true) :
    (book.ask turn).1 = (other.ask turn).1 ∧ (book.ask turn).1.isPlain = true ∧
      Alike turn.now (book.ask turn).2 (other.ask turn).2 := by
  have same (key : String) : book.live? turn.now key = other.live? turn.now key :=
    alike turn.now (Nat.le_refl _) key
  obtain ⟨store, now, question⟩ := turn
  unfold Book.ask
  cases question with
  | call call =>
      cases call with
      | claim key token ttl =>
          simp only [same]
          cases other.live? now key with
          | some lease => exact ⟨rfl, rfl, alike⟩
          | none => exact ⟨rfl, rfl, alike.update key _⟩
      | revoke key token =>
          simp only [same]
          split
          · exact ⟨rfl, rfl, alike.update key none⟩
          · exact ⟨rfl, rfl, alike⟩
      | check key =>
          exact ⟨congrArg (fun live => Answer.said (.ok live.isSome)) (same key), rfl, alike⟩
  | timeLeft key =>
      exact ⟨congrArg (fun live => Answer.left (.ok (live.map (·.ends.since now)))) (same key),
        rfl, alike⟩
  | purge => cases plain

theorem isPlain_ask_purge (book : Book) {turn : Turn} (purges : turn.isPlain = false) :
    (book.ask turn).1.isPlain = false ∧ (book.ask turn).2 = book.live? turn.now := by
  obtain ⟨store, now, question⟩ := turn
  cases question with
  | purge => exact ⟨rfl, rfl⟩
  | call call => simp [Turn.isPlain] at purges
  | timeLeft key => simp [Turn.isPlain] at purges

/-- Purging changes no other answer. -/
theorem converse_plain {history : List Turn}
    (ordered : history.Pairwise fun turn later => turn.now ≤ later.now)
    (onward : ∀ turn ∈ history, now ≤ turn.now) (alike : Alike now book other) :
    (converse ask book history).filter Answer.isPlain =
      converse ask other (history.filter Turn.isPlain) := by
  induction history generalizing now book other with
  | nil => rfl
  | cons turn later ih =>
      have here := alike.onward (onward turn List.mem_cons_self)
      rw [List.pairwise_cons] at ordered
      cases plain : turn.isPlain with
      | true =>
          obtain ⟨same, isPlain, stays⟩ := here.ask plain
          rw [converse, List.filter_cons_of_pos isPlain, List.filter_cons_of_pos plain, converse,
            same, ih ordered.2 ordered.1 stays]
      | false =>
          obtain ⟨notPlain, purged⟩ := isPlain_ask_purge book plain
          rw [converse, List.filter_cons_of_neg (by simp [notPlain]),
            List.filter_cons_of_neg (by simp [plain]), purged,
            ih ordered.2 ordered.1 here.purged]

end Book

/-! ## Leases in memory -/

namespace Memory

/-- The answer of a memory to a turn, and the memory afterwards. -/
def ask (memory : Memory) (turn : Turn) : Answer × Memory :=
  match turn.question with
  | .call call =>
      let (reply, after) := Store.call memory turn.now call
      (.said reply, after)
  | .timeLeft key =>
      let (time, after) := Store.timeLeft memory turn.now key
      (.left time, after)
  | .purge =>
      let (count, after) := memory.purge turn.now
      (.purged count, after)

/-- The leases in memory as a map. -/
def book (memory : Memory) : Book := memory.entries.get?

variable {memory : Memory} {now : Instant} {key : String}

theorem book_live? : memory.book.live? now key = memory.live? now key := by
  unfold Book.live? book Memory.live? Entry.hasEnded
  cases memory.entries.get? key with
  | none => rfl
  | some lease =>
      by_cases running : now < lease.ends
      · have : ¬ lease.ends ≤ now := Nat.not_le.mpr running
        simp [Option.filter, running, this]
      · have : lease.ends ≤ now := Nat.not_lt.mp running
        simp [Option.filter, running, this]

theorem book_insert (lease : Entry) :
    (⟨memory.entries.insert key lease⟩ : Memory).book =
      Function.update memory.book key (some lease) := by
  funext other
  rw [book, Table.get?_insert, Function.update_apply]
  simp only [eq_comm]
  rfl

theorem book_erase :
    (⟨memory.entries.erase key⟩ : Memory).book = Function.update memory.book key none := by
  funext other
  rw [book, Table.get?_erase, Function.update_apply]
  simp only [eq_comm]
  rfl

theorem book_purge : (memory.purge now).2.book = memory.book.live? now := by
  funext key
  rw [purge, book, Table.get?_filter, Book.live?, book]
  congr 1
  funext lease
  rw [Entry.hasEnded, ← decide_not]
  exact decide_eq_decide.mpr Nat.not_le

/-- A purge counts the keys whose leases have ended. -/
theorem purge_count : (memory.purge now).1 = (memory.book.ended now).ncard := by
  have split := List.length_eq_length_filter_add (l := memory.entries.entries)
    fun entry => !entry.2.hasEnded now
  have counted : (memory.purge now).1 =
      (memory.entries.entries.filter fun entry => entry.2.hasEnded now).length := by
    have kept : (memory.entries.filter fun _ lease => !lease.hasEnded now).size =
        (memory.entries.entries.filter fun entry => !entry.2.hasEnded now).length := rfl
    simp only [Bool.not_not] at split
    rw [purge]
    dsimp only
    rw [kept, Table.size]
    omega
  have named : memory.book.ended now =
      ((memory.entries.filter fun _ lease => lease.hasEnded now).keys.toFinset : Set String) := by
    ext key
    rw [List.coe_toFinset, Set.mem_ofPred_eq, Table.keys, List.mem_map]
    constructor
    · rintro ⟨lease, kept, past⟩
      refine ⟨(key, lease), List.mem_filter.mpr ⟨Table.get?_eq_some_iff.mp kept, ?_⟩, rfl⟩
      exact decide_eq_true past
    · rintro ⟨entry, member, rfl⟩
      obtain ⟨kept, past⟩ := List.mem_filter.mp member
      exact ⟨entry.2, Table.get?_eq_some_iff.mpr kept, of_decide_eq_true past⟩
  have once : (memory.entries.filter fun _ lease => lease.hasEnded now).keys.Nodup :=
    Table.nodup _
  rw [counted, named, Set.ncard_coe_finset, List.toFinset_card_of_nodup once, Table.keys,
    List.length_map]
  rfl

/-- A memory answers as the map of its leases does. -/
theorem ask_book (turn : Turn) :
    (memory.ask turn).1 = (memory.book.ask turn).1 ∧
      (memory.ask turn).2.book = (memory.book.ask turn).2 := by
  obtain ⟨store, now, question⟩ := turn
  unfold Memory.ask Book.ask
  cases question with
  | call call =>
      cases call with
      | claim key token ttl =>
          simp only [book_live?]
          cases live : memory.live? now key with
          | some lease => simp [Store.call, Memory.call, claim, live]
          | none => simp [Store.call, Memory.call, claim, live, book_insert]
      | revoke key token =>
          simp only [book_live?]
          cases live : memory.live? now key with
          | none => simp [Store.call, Memory.call, revoke, live]
          | some lease =>
              by_cases own : lease.token = token
              · simp [Store.call, Memory.call, revoke, live, own, book_erase]
              · simp [Store.call, Memory.call, revoke, live, own]
      | check key =>
          simp only [book_live?]
          exact ⟨rfl, rfl⟩
  | timeLeft key =>
      simp only [book_live?]
      exact ⟨rfl, rfl⟩
  | purge => exact ⟨congrArg Answer.purged purge_count, book_purge⟩

end Memory

/-! ## Leases in a directory -/

namespace Directory

/-- The answer of one of the stores to a turn, each of which is the path of a directory, and
the host of all of them afterwards.  There is nothing to purge in a directory. -/
def ask (stores : Nat → Path) (host : Host) (turn : Turn) : Answer × Host :=
  let store : Directory := ⟨stores turn.store, host⟩
  match turn.question with
  | .call call =>
      let (reply, after) := Store.call store turn.now call
      (.said reply, after.host)
  | .timeLeft key =>
      let (time, after) := Store.timeLeft store turn.now key
      (.left time, after.host)
  | .purge => (.purged 0, host)

/-- A lease as it is filed. -/
def filed (lease : Entry) : Files.Entry := ⟨lease.token, lease.ends.millis⟩

/-- A point in time, in whole milliseconds, that a file can tell. -/
structure Tells (time : Instant) : Prop where
  whole : 1000000 ∣ time.nanos
  fits : time.millis < 2 ^ 63

/-- The leases of a map as they are filed. -/
def files (book : Book) : String → Option Files.Entry := fun key => (book key).map filed

theorem files_update (book : Book) (target : String) (kept : Option Entry) :
    files (Function.update book target kept) =
      Function.update (files book) target (kept.map filed) := by
  funext key
  by_cases same : key = target
  · rw [files, same, Function.update_self, Function.update_self]
  · rw [files, Function.update_of_ne same, Function.update_of_ne same, files]

/-- Whether a file can tell when each lease of a map ends. -/
def AllTell (book : Book) : Prop := ∀ key lease, book key = some lease → Tells lease.ends

theorem AllTell.update {book : Book} (tell : AllTell book) (target : String)
    {kept : Option Entry} (own : ∀ lease, kept = some lease → Tells lease.ends) :
    AllTell (Function.update book target kept) := by
  intro key lease found
  by_cases same : key = target
  · rw [same, Function.update_self] at found
    exact own lease found
  · rw [Function.update_of_ne same] at found
    exact tell key lease found

/-- Whether the files hold the leases of a map. -/
structure Keeps (directory : Path) (keys : Set String) (book : Book) (host : Host) : Prop where
  holds : Files.Holds directory keys (files book) host
  tell : AllTell book

variable {book : Book} {now : Instant} {key : String} {lease : Entry}

/-- A filed lease has as many milliseconds left as lie between now and its end. -/
theorem millisLeft?_filed (current : Tells now) (ends : Tells lease.ends) :
    (filed lease).millisLeft? now.millis =
      if now < lease.ends then some (lease.ends.millis - now.millis) else none := by
  obtain ⟨wholeNow, fitsNow⟩ := current
  obtain ⟨wholeEnds, fitsEnds⟩ := ends
  have exact : Files.wrapStored ((lease.ends.millis : Int) - now.millis) =
      (lease.ends.millis : Int) - now.millis :=
    Files.wrapStored_of_fits (by unfold Files.minStored; omega) (by unfold Files.maxStored; omega)
  simp only [Files.Entry.millisLeft?, filed, exact]
  by_cases running : now < lease.ends
  · have : now.millis < lease.ends.millis := by
      rw [Instant.lt_iff] at running
      unfold Instant.millis
      omega
    rw [if_pos running, if_pos (by omega), Int.toNat_sub]
  · have : lease.ends.millis ≤ now.millis := by
      rw [Instant.lt_iff] at running
      unfold Instant.millis
      omega
    rw [if_neg running, if_neg (by omega)]

/-- A lease that is entered now is filed with its end. -/
theorem start_eq_filed {token : String} {ttl : Duration} (current : 1000000 ∣ now.nanos)
    (lasting : 1000000 ∣ ttl.nanos) (fits : (now.later ttl).millis < 2 ^ 63) :
    Files.Entry.start token now ttl = filed ⟨token, now.later ttl⟩ := by
  have sum : (now.later ttl).millis = now.millis + ttl.millis := by
    simp only [Instant.millis, Duration.millis, Instant.nanos_later]
    omega
  have inner : Files.wrapStored (ttl.millis : Int) = ttl.millis :=
    Files.wrapStored_of_fits (by unfold Files.minStored; omega) (by unfold Files.maxStored; omega)
  have outer : Files.wrapStored ((now.millis : Int) + ttl.millis) = (now.millis : Int) + ttl.millis :=
    Files.wrapStored_of_fits (by unfold Files.minStored; omega) (by unfold Files.maxStored; omega)
  simp only [Files.Entry.start, filed, inner, outer, sum, Nat.cast_add]

section Kept

variable {directory : Path} {keys : Set String} {host : Host}

theorem Keeps.live? (keeps : Keeps directory keys book host) (current : Tells now) :
    Files.live? (files book) now key = (book.live? now key).map filed := by
  rw [Files.live?, Book.live?, files]
  cases kept : book key with
  | none => rfl
  | some lease =>
      have left := millisLeft?_filed current (keeps.tell key lease kept)
      by_cases running : now < lease.ends <;> simp [Option.filter, left, running]

theorem Keeps.left? (keeps : Keeps directory keys book host) (current : Tells now) :
    Files.left? (files book) now key =
      (book.live? now key).map fun lease => lease.ends.since now := by
  rw [Files.left?, Book.live?, files]
  cases kept : book key with
  | none => rfl
  | some lease =>
      have ends := keeps.tell key lease kept
      have left := millisLeft?_filed current ends
      have exact : Duration.ofMillis (lease.ends.millis - now.millis) = lease.ends.since now := by
        obtain ⟨wholeNow, -⟩ := current
        obtain ⟨wholeEnds, -⟩ := ends
        simp only [Duration.ofMillis, Instant.since, Instant.millis, Duration.mk.injEq]
        omega
      by_cases running : now < lease.ends <;> simp [Option.filter, left, running, exact]

/-- A call does to the files what it does to the map. -/
theorem Keeps.answered (keeps : Keeps directory keys book host) (current : Tells now)
    (call : Call) (lasting : 1000000 ∣ (Question.call call).ttl.nanos)
    (fits : (now.later (Question.call call).ttl).millis < 2 ^ 63) (store : Nat) :
    (book.ask ⟨store, now, .call call⟩).1 = .said (.ok (Files.answered (files book) now call).1) ∧
      files (book.ask ⟨store, now, .call call⟩).2 = (Files.answered (files book) now call).2 ∧
      AllTell (book.ask ⟨store, now, .call call⟩).2 := by
  cases call with
  | claim key token ttl =>
      have start : Files.Entry.start token now ttl = filed ⟨token, now.later ttl⟩ :=
        start_eq_filed current.whole lasting fits
      simp only [Book.ask, Files.answered, keeps.live? current, start]
      cases book.live? now key with
      | some lease => exact ⟨rfl, rfl, keeps.tell⟩
      | none =>
          refine ⟨rfl, files_update .., keeps.tell.update key ?_⟩
          rintro lease ⟨⟩
          exact ⟨Nat.dvd_add current.whole lasting, fits⟩
  | revoke key token =>
      have named : ((book.live? now key).map filed).map Files.Entry.token =
          (book.live? now key).map Entry.token := by
        rw [Option.map_map]
        rfl
      simp only [Book.ask, Files.answered, keeps.live? current, named]
      split
      · refine ⟨rfl, files_update .., keeps.tell.update key ?_⟩
        rintro lease ⟨⟩
      · exact ⟨rfl, rfl, keeps.tell⟩
  | check key =>
      simp only [Book.ask, Files.answered, keeps.live? current, Option.isSome_map]
      exact ⟨trivial, trivial, keeps.tell⟩

/-- Stores that share a directory answer as the map of its leases does. -/
theorem Keeps.ask {stores : Nat → Path} (shared : ∀ store, stores store = directory)
    (apart : Files.TellsApart keys) {turn : Turn} (plain : turn.isPlain = true)
    (used : ∀ key, turn.question.key? = some key → key ∈ keys)
    (whole : 1000000 ∣ turn.now.nanos ∧ 1000000 ∣ turn.question.ttl.nanos)
    (fits : (turn.now.later turn.question.ttl).millis < 2 ^ 63)
    (keeps : Keeps directory keys book host) :
    (Directory.ask stores host turn).1 = (book.ask turn).1 ∧
      Keeps directory keys (book.ask turn).2 (Directory.ask stores host turn).2 := by
  obtain ⟨store, now, question⟩ := turn
  have current : Tells now :=
    ⟨whole.1, Nat.lt_of_le_of_lt (Nat.div_le_div_right (Nat.le_add_right _ _)) fits⟩
  cases question with
  | purge => cases plain
  | timeLeft key =>
      obtain ⟨after, holds, answers⟩ := keeps.holds.asked now (used key rfl)
      have said : Directory.ask stores host ⟨store, now, .timeLeft key⟩ =
          (.left (.ok (Files.left? (files book) now key)), after) := by
        simp only [Directory.ask, shared, answers]
      rw [said, keeps.left? current]
      exact ⟨rfl, holds, keeps.tell⟩
  | call call =>
      obtain ⟨after, holds, answers⟩ := keeps.holds.call apart now call (used call.key rfl)
      obtain ⟨same, filedSo, tell⟩ := keeps.answered current call whole.2 fits store
      have said : Directory.ask stores host ⟨store, now, .call call⟩ =
          (.said (.ok (Files.answered (files book) now call).1), after) := by
        simp only [Directory.ask, shared, answers]
      rw [← filedSo] at holds
      rw [said, same]
      exact ⟨rfl, holds, tell⟩

end Kept

end Directory

/-! ## One map -/

/-- A memory, and any number of stores that share a directory, give the answers of one map
from keys to leases, in which a lease is absent from its end on. -/
theorem one_map {history : List Turn} (timely : Timely history) :
    converse Memory.ask .empty history = converse Book.ask .blank history ∧
    (converse Book.ask .blank history).filter Answer.isPlain =
      converse Book.ask .blank (history.filter Turn.isPlain) ∧
    ∀ (directory : Path) (stores : Nat → Path) (host : Host),
      (∀ store, stores store = directory) → Files.TellsApart (keysOf history) →
      Files.Holds directory (keysOf history) (fun _ => none) host →
      converse (Directory.ask stores) host (history.filter Turn.isPlain) =
        converse Book.ask .blank (history.filter Turn.isPlain) := by
  refine ⟨?_, ?_, ?_⟩
  · refine converse_eq (fun memory book => memory.book = book) ?_ rfl
    rintro turn - memory book rfl
    exact memory.ask_book turn
  · have same : Book.Alike ⟨0⟩ .blank .blank := fun _ _ _ => rfl
    exact Book.converse_plain timely.ordered (fun _ _ => Nat.zero_le _) same
  · intro directory stores host shared apart holds
    refine converse_eq (fun host book => Directory.Keeps directory (keysOf history) book host) ?_
      ⟨holds, nofun⟩
    intro turn member host book keeps
    obtain ⟨asked, plain⟩ := List.mem_filter.mp member
    exact keeps.ask shared apart plain (fun _ about => ⟨turn, asked, about⟩)
      (timely.whole turn asked) (timely.fits turn asked)

/-- Two owners take turns on one key, and one of them stays on another. -/
def takeover : List Turn :=
  [⟨0, ⟨0⟩, .call (.claim "plans" "one" (.ofMillis 5))⟩,
    ⟨1, ⟨0⟩, .call (.claim "minutes" "other" (.ofMillis 9))⟩,
    ⟨1, ⟨4000000⟩, .call (.claim "plans" "two" (.ofMillis 5))⟩,
    ⟨1, ⟨5000000⟩, .call (.revoke "plans" "one")⟩,
    ⟨0, ⟨5000000⟩, .purge⟩,
    ⟨1, ⟨5000000⟩, .call (.claim "plans" "two" (.ofMillis 5))⟩,
    ⟨0, ⟨6000000⟩, .timeLeft "plans"⟩,
    ⟨0, ⟨6000000⟩, .call (.revoke "plans" "two")⟩]

/-- The lease that ends at the fifth millisecond can be taken over then, and not be removed. -/
theorem one_map_takeover :
    Timely takeover ∧
      converse (Directory.ask fun _ => []) ⟨.empty, ⟨0⟩, toString, 0⟩
          (takeover.filter Turn.isPlain) =
        [.said (.ok true), .said (.ok true), .said (.ok false), .said (.ok false),
          .said (.ok true), .left (.ok (some (.ofMillis 4))), .said (.ok true)] := by
  have timely : Timely takeover := ⟨by decide, by decide, by decide⟩
  have known : ∀ key ∈ keysOf takeover, key = "plans" ∨ key = "minutes" := by
    rintro key ⟨turn, asked, about⟩
    have : ∀ turn ∈ takeover, turn.question.key? = none ∨
        turn.question.key? = some "plans" ∨ turn.question.key? = some "minutes" := by decide
    grind
  have digests : Digest.sha256 (Bytes.ofText "plans") ≠ Digest.sha256 (Bytes.ofText "minutes") := by
    decide +kernel
  have apart : Files.TellsApart (keysOf takeover) := by
    intro key used other used' same
    grind
  have clear (name : String) : Disk.empty.node? ([] ++ [name]) = none := rfl
  have holds : Files.Holds [] (keysOf takeover) (fun _ => none) ⟨.empty, ⟨0⟩, toString, 0⟩ :=
    .start ⟨Disk.isTree_empty, Disk.isNamed_empty, rfl⟩ clear
  obtain ⟨inMemory, purging, onDisk⟩ := one_map timely
  refine ⟨timely, ?_⟩
  rw [onDisk [] _ _ (fun _ => rfl) apart holds, ← purging, ← inMemory]
  decide

end Coedit.Lease
