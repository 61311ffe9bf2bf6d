import Coedit.Proofs.Lease.Directory
import Coedit.Proofs.Lease.Contract
import Coedit.Proofs.Site.Holding

/-!
# How long a lock protects its key

A lock that was just had protects its key just if the store can keep the length of time it
asked for.  In memory every length but the empty one will do.  A lease file keeps whole
milliseconds in sixty-four signed bits, and settings that are in order may still ask for a
length that comes back as nothing.
-/

namespace Coedit.Lock

open Lease

/-! ## Getting a key alone -/

/-- An acquisition of a key under no guard, wherever it has got to. -/
inductive Seeks (settings : Settings) (key : String) : Acquisition → Prop where
  | start (maxWait : Duration) (moment : Moment) :
      Seeks settings key (.start key .unguarded settings maxWait moment)
  | answered {acquisition : Acquisition} (seeks : Seeks settings key acquisition)
      (reply : Reply) (moment : Moment) : Seeks settings key (acquisition.answered reply moment)
  | rested {acquisition : Acquisition} (seeks : Seeks settings key acquisition)
      (moment : Moment) : Seeks settings key (acquisition.rested moment)

/-- What an acquisition of a key alone is about: one attempt, until it has ended. -/
structure IsPlain (settings : Settings) (key : String) (acquisition : Acquisition) : Prop where
  guard : acquisition.guard = .unguarded
  phase : match acquisition.phase with
    | .taking attempt => attempt.key = key ∧ attempt.ttl = settings.ttl
    | .retrying _ attempt => attempt.key = key ∧ attempt.ttl = settings.ttl
    | .acquired _ => True
    | .failed _ => True
    | _ => False

variable {settings : Settings} {key : String} {acquisition : Acquisition}

/-- An attempt goes on with the key and the length of time it started with. -/
theorem Attempt.same_of_again {attempt again : Attempt} {reply : Reply} {moment : Moment}
    {pause : Duration} (next : attempt.next reply moment = .again pause again) :
    again.key = attempt.key ∧ again.ttl = attempt.ttl := by
  unfold Attempt.next at next
  repeat' split at next
  all_goals cases next
  exact ⟨rfl, rfl⟩

theorem IsPlain.answered (plain : IsPlain settings key acquisition) (reply : Reply)
    (moment : Moment) : IsPlain settings key (acquisition.answered reply moment) := by
  obtain ⟨guard, inPhase⟩ := plain
  refine ⟨by rw [Acquisition.guard_answered, guard], ?_⟩
  cases phase : acquisition.phase <;> simp only [phase] at inPhase
  case taking attempt =>
      simp only [Acquisition.answered, phase, guard, Acquisition.taken]
      cases next : attempt.next reply moment with
      | taken => trivial
      | again pause again =>
          obtain ⟨sameKey, sameTtl⟩ := Attempt.same_of_again next
          exact ⟨sameKey.trans inPhase.1, sameTtl.trans inPhase.2⟩
      | failed failure => trivial
  case retrying pause attempt =>
      simp only [Acquisition.answered, phase]
      exact inPhase
  case acquired token => simp only [Acquisition.answered, phase]
  case failed failure => simp only [Acquisition.answered, phase]

theorem IsPlain.rested (plain : IsPlain settings key acquisition) (moment : Moment) :
    IsPlain settings key (acquisition.rested moment) := by
  obtain ⟨guard, inPhase⟩ := plain
  refine ⟨by rw [Acquisition.guard_rested, guard], ?_⟩
  cases phase : acquisition.phase <;> simp only [phase] at inPhase
  case taking attempt =>
      simp only [Acquisition.rested, phase]
      exact inPhase
  case retrying pause attempt =>
      simp only [Acquisition.rested, phase]
      exact inPhase
  case acquired token => simp only [Acquisition.rested, phase]
  case failed failure => simp only [Acquisition.rested, phase]

theorem Seeks.isPlain (seeks : Seeks settings key acquisition) :
    IsPlain settings key acquisition := by
  induction seeks with
  | start maxWait moment => exact ⟨rfl, rfl, rfl⟩
  | answered _ reply moment ih => exact ih.answered reply moment
  | rested _ moment ih => exact ih.rested moment

/-- The one call of such an acquisition claims its key, and is all it takes. -/
theorem Seeks.claims (seeks : Seeks settings key acquisition) {call : Call}
    (calls : acquisition.need? = some (.call call)) :
    ∃ token, call = .claim key token settings.ttl ∧
      ∀ moment, (acquisition.answered (.ok true) moment).result? = some (.ok token) := by
  obtain ⟨guard, inPhase⟩ := seeks.isPlain
  unfold Acquisition.need? at calls
  cases phase : acquisition.phase <;> simp only [phase] at inPhase calls <;> cases calls
  case taking.refl attempt =>
      obtain ⟨sameKey, sameTtl⟩ := inPhase
      refine ⟨attempt.token, by rw [Attempt.call, sameKey, sameTtl], ?_⟩
      intro moment
      simp [Acquisition.answered, Acquisition.taken, Acquisition.result?, Attempt.next, phase, guard]

/-- An acquisition whose claim is granted has its lock. -/
theorem Seeks.carryOn {S : Type} [Store S] (seeks : Seeks settings key acquisition) {call : Call}
    (calls : acquisition.need? = some (.call call)) (lockers : Lockers S) (id : LockerId)
    (now : Instant) (moment : Moment)
    (free : ∀ token, (Store.call lockers.store now (.claim key token settings.ttl)).1 = .ok true) :
    ∃ token, (lockers.carryOn id acquisition none now moment).1.result? = some (.ok token) ∧
      (lockers.carryOn id acquisition none now moment).2.store =
        (Store.call lockers.store now (.claim key token settings.ttl)).2 := by
  obtain ⟨token, rfl, taken⟩ := seeks.claims calls
  refine ⟨token, ?_, ?_⟩
  · simp only [Lockers.carryOn, calls, Lockers.call, free]
    exact taken moment
  · simp only [Lockers.carryOn, calls, Lockers.call]

/-! ## Protection -/

/-- Whether a live lease keeps a key from everybody, for a length of time at most. -/
structure Protects {S : Type} [Store S] (store : S) (now : Instant) (key : String)
    (atMost : Duration) : Prop where
  isHeld : (Store.call store now (.check key)).1 = .ok true
  timeLeft : ∃ left, (Store.timeLeft store now key).1 = .ok (some left) ∧ left ≤ atMost
  refuses (token : String) (ttl : Duration) :
    (Store.call store now (.claim key token ttl)).1 = .ok false

/-- Whether there is no live lease of a key, so that anybody can have it. -/
structure Exposes {S : Type} [Store S] (store : S) (now : Instant) (key : String) : Prop where
  isFree : (Store.call store now (.check key)).1 = .ok false
  timeLeft : (Store.timeLeft store now key).1 = .ok none
  grants (token : String) (ttl : Duration) :
    (Store.call store now (.claim key token ttl)).1 = .ok true

variable {now : Instant} {token : String} {ttl : Duration}

/-- In memory a lease that is not empty protects its key. -/
theorem protects_memory {memory : Memory} (free : memory.live? now key = none)
    (lasting : ttl.isZero = false) :
    Protects (Store.call memory now (.claim key token ttl)).2 now key ttl := by
  have running : (⟨token, now.later ttl⟩ : Entry).hasEnded now = false := by
    simp only [Duration.isZero, beq_eq_false_iff_ne] at lasting
    simp only [Entry.hasEnded, Instant.le_iff, Instant.nanos_later, decide_eq_false_iff_not]
    omega
  have after : (Store.call memory now (.claim key token ttl)).2 =
      ⟨memory.entries.insert key ⟨token, now.later ttl⟩⟩ := by
    simp only [Store.call, Memory.call, Memory.claim, free]
  have live : (⟨memory.entries.insert key ⟨token, now.later ttl⟩⟩ : Memory).live? now key =
      some ⟨token, now.later ttl⟩ := by
    rw [Memory.live?_eq_some_iff, Table.get?_insert_self]
    exact ⟨rfl, running⟩
  rw [after]
  refine ⟨?_, ⟨ttl, ?_, Nat.le_refl _⟩, ?_⟩
  · simp only [Store.call, Memory.call, live, Option.isSome_some]
  · simp only [Store.timeLeft, Memory.timeLeft?, live, Option.map_some, Instant.since,
      Instant.nanos_later, Nat.add_sub_cancel_left]
  · intro rival length
    simp only [Store.call, Memory.call, Memory.claim, live]

/-- Whether a file gets a length of time back as one that has yet to pass. -/
def ComesBack (ttl : Duration) : Prop :=
  0 < ttl.millis % 2 ^ 64 ∧ ttl.millis % 2 ^ 64 < 2 ^ 63

instance (ttl : Duration) : Decidable (ComesBack ttl) := inferInstanceAs (Decidable (_ ∧ _))

/-- The usual length of a lock comes back, and the longest that can be asked for does not. -/
example : ComesBack Settings.standard.ttl ∧ ¬ ComesBack (.ofSecs 18446744073709551615) := by
  decide

theorem comesBack_iff : ComesBack ttl ↔ 0 < Files.wrapStored (ttl.millis : Int) := by
  rw [Files.wrapStored_natCast, ComesBack]
  split <;> omega

/-- What comes back is at most what was asked for. -/
theorem ofMillis_toNat_le (comes : ComesBack ttl) :
    Duration.ofMillis (Files.wrapStored (ttl.millis : Int)).toNat ≤ ttl := by
  rw [Files.wrapStored_natCast, if_pos comes.2, Int.toNat_natCast, Duration.le_iff]
  have part : ttl.millis % 2 ^ 64 ≤ ttl.nanos / 1000000 := Nat.mod_le _ _
  simp only [Duration.ofMillis]
  omega

section Files

variable {directory : Path} {keys : Set String} {book : String → Option Files.Entry}
  {host : Host}

theorem protects_files (holds : Files.Holds directory keys book host)
    (apart : Files.TellsApart keys) (used : key ∈ keys) {millis : Nat}
    (left : (book key).bind (·.millisLeft? now.millis) = some millis)
    (atMost : Duration.ofMillis millis ≤ ttl) :
    Protects (⟨directory, host⟩ : Directory) now key ttl := by
  obtain ⟨lease, kept, running⟩ := Option.bind_eq_some_iff.mp left
  have live : Files.live? book now key = some lease := by
    rw [Files.live?_eq_some_iff, running]
    exact ⟨kept, rfl⟩
  refine ⟨?_, ⟨.ofMillis millis, ?_, atMost⟩, ?_⟩
  · obtain ⟨after, -, answer⟩ := holds.call apart now (.check key) used
    rw [answer, Files.answered, live]
    rfl
  · obtain ⟨after, -, answer⟩ := holds.asked now used
    rw [answer, Files.left?, left]
    rfl
  · intro rival length
    obtain ⟨after, -, answer⟩ := holds.call apart now (.claim key rival length) used
    rw [answer, Files.answered, live]

theorem exposes_files (holds : Files.Holds directory keys book host)
    (apart : Files.TellsApart keys) (used : key ∈ keys)
    (left : (book key).bind (·.millisLeft? now.millis) = none) :
    Exposes (⟨directory, host⟩ : Directory) now key := by
  have noTime : Files.left? book now key = none := by
    rw [Files.left?, left]
    rfl
  have free : Files.live? book now key = none := by
    rw [← Option.isNone_iff_eq_none, ← Option.isSome_eq_false_iff, ← Files.isSome_left?, noTime]
    rfl
  refine ⟨?_, ?_, ?_⟩
  · obtain ⟨after, -, answer⟩ := holds.call apart now (.check key) used
    rw [answer, Files.answered, free]
    rfl
  · obtain ⟨after, -, answer⟩ := holds.asked now used
    rw [answer, noTime]
  · intro rival length
    obtain ⟨after, -, answer⟩ := holds.call apart now (.claim key rival length) used
    rw [answer, Files.answered, free]

/-- A lease is entered for a free key, and protects it if its length comes back. -/
theorem claimed_files (holds : Files.Holds directory keys book host)
    (apart : Files.TellsApart keys) (used : key ∈ keys)
    (free : Files.live? book now key = none) (token : String) (ttl : Duration) :
    (Store.call (⟨directory, host⟩ : Directory) now (.claim key token ttl)).1 = .ok true ∧
      if ComesBack ttl then
        Protects (Store.call (⟨directory, host⟩ : Directory) now (.claim key token ttl)).2 now key ttl
      else
        Exposes (Store.call (⟨directory, host⟩ : Directory) now (.claim key token ttl)).2 now key := by
  obtain ⟨after, holds, answer⟩ := holds.call apart now (.claim key token ttl) used
  rw [Files.answered, free] at holds answer
  have entered : ((Function.update book key (some (.start token now ttl))) key).bind
      (·.millisLeft? now.millis) =
        if ComesBack ttl then some (Files.wrapStored (ttl.millis : Int)).toNat else none := by
    rw [Function.update_self, Option.bind_some, Files.Entry.millisLeft?_start]
    simp only [comesBack_iff]
  rw [answer]
  refine ⟨rfl, ?_⟩
  split
  · next comes =>
      rw [if_pos comes] at entered
      exact protects_files holds apart used entered (ofMillis_toNat_le comes)
  · next gone =>
      rw [if_neg gone] at entered
      exact exposes_files holds apart used entered

end Files

/-! ## The lifetime of a lock -/

/-- Whether the clock of a process can tell a point in time, in whole seconds.  `Instant` goes on
beyond that, where a process would break down. -/
def Tellable (time : Instant) : Prop := time.nanos / 1000000000 < 2 ^ 63

/-- A free key is had at the first claim.  In memory it is protected from then on, however
short or long a lock under settings that are in order lasts; in a directory this is so just
if the whole milliseconds come back from sixty-four signed bits, and else the key is as free
as before.  No argument rests on `Tellable`: it keeps what is said of memory to the clocks
there are, since a lock that lasts beyond them is never had. -/
theorem lifetime (valid : settings.validate = .ok ()) (seeks : Seeks settings key acquisition)
    {call : Call} (calls : acquisition.need? = some (.call call)) (id : LockerId) (now : Instant)
    (moment : Moment) :
    (∀ lockers : Lockers Memory, lockers.store.live? now key = none →
      Tellable (now.later settings.ttl) →
      ∃ token, (lockers.carryOn id acquisition none now moment).1.result? = some (.ok token) ∧
        Protects (lockers.carryOn id acquisition none now moment).2.store now key settings.ttl) ∧
    ∀ (lockers : Lockers Directory) (keys : Set String) (book : String → Option Files.Entry),
      key ∈ keys → Files.TellsApart keys →
      Files.Holds lockers.store.path keys book lockers.store.host →
      Files.live? book now key = none →
      ∃ token, (lockers.carryOn id acquisition none now moment).1.result? = some (.ok token) ∧
        if ComesBack settings.ttl then
          Protects (lockers.carryOn id acquisition none now moment).2.store now key settings.ttl
        else Exposes (lockers.carryOn id acquisition none now moment).2.store now key := by
  have lasting : settings.ttl.isZero = false := by
    unfold Settings.validate at valid
    split at valid
    · cases valid
    · next lasting => exact Bool.eq_false_iff.mpr lasting
  refine ⟨?_, ?_⟩
  · intro lockers free _
    obtain ⟨token, had, after⟩ := seeks.carryOn calls lockers id now moment fun token => by
      simp only [Store.call, Memory.call, Memory.claim, free]
    refine ⟨token, had, ?_⟩
    rw [after]
    exact protects_memory free lasting
  · intro lockers keys book used apart holds free
    have claimed (token : String) := claimed_files holds apart used free token settings.ttl
    obtain ⟨token, had, after⟩ :=
      seeks.carryOn calls lockers id now moment fun token => (claimed token).1
    refine ⟨token, had, ?_⟩
    rw [after]
    exact (claimed token).2

/-- Locks that last a little less than a millisecond. -/
def brief : Settings := ⟨⟨999999⟩, .ofMillis 10, .ofMillis 200⟩

/-- Somebody is about to get such a lock. -/
def seeker : Acquisition := .start "plans" .unguarded brief .zero (.at ⟨0⟩ .zero "one")

/-- Such a lock protects its key in memory, and does not in a directory. -/
theorem lifetime_brief :
    brief.validate = .ok () ∧
      (∃ token, (Lockers.carryOn (⟨.empty, .empty⟩ : Lockers Memory) 0 seeker none ⟨0⟩
          (.at ⟨0⟩ .zero "two")).1.result? = some (.ok token) ∧
        Protects (Lockers.carryOn (⟨.empty, .empty⟩ : Lockers Memory) 0 seeker none ⟨0⟩
          (.at ⟨0⟩ .zero "two")).2.store ⟨0⟩ "plans" ⟨999999⟩) ∧
      ∃ token, (Lockers.carryOn (⟨⟨[], .empty, ⟨0⟩, toString, 0⟩, .empty⟩ : Lockers Directory) 0
          seeker none ⟨0⟩ (.at ⟨0⟩ .zero "two")).1.result? = some (.ok token) ∧
        Exposes (Lockers.carryOn (⟨⟨[], .empty, ⟨0⟩, toString, 0⟩, .empty⟩ : Lockers Directory) 0
          seeker none ⟨0⟩ (.at ⟨0⟩ .zero "two")).2.store ⟨0⟩ "plans" := by
  have valid : brief.validate = .ok () := by decide
  have clear (name : String) : Disk.empty.node? ([] ++ [name]) = none := rfl
  have holds : Files.Holds [] {"plans"} (fun _ => none) ⟨.empty, ⟨0⟩, toString, 0⟩ :=
    .start ⟨Disk.isTree_empty, Disk.isNamed_empty, rfl⟩ clear
  have apart : Files.TellsApart {"plans"} := by
    rintro key rfl other rfl -
    rfl
  have seeks : Seeks brief "plans" seeker := .start .zero (.at ⟨0⟩ .zero "one")
  obtain ⟨inMemory, onDisk⟩ := lifetime valid seeks rfl 0 ⟨0⟩ (.at ⟨0⟩ .zero "two")
  have protects := inMemory ⟨.empty, .empty⟩ rfl (by unfold Tellable; decide)
  have exposes := onDisk ⟨⟨[], .empty, ⟨0⟩, toString, 0⟩, .empty⟩ {"plans"} (fun _ => none) rfl
    apart holds rfl
  rw [if_neg (by decide)] at exposes
  exact ⟨valid, protects, exposes⟩

end Coedit.Lock
