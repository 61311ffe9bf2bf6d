import Coedit.Lease.Memory
import Coedit.Lock.Locker

/-!
# The contract of a lease store

What the answers of a lease store mean, told by the lease it keeps at each key.
Whoever shares a store relies on nothing else: a lease that has not ended stays
until its own token revokes it, and a failed call changes nothing.
-/

namespace Coedit.Lease

/-- A lease store that keeps its word.  A lease that has ended counts as absent,
whether the store still has it or not. -/
class Lawful (S : Type) [Store S] where
  /-- The lease at a key, whether it has ended or not. -/
  lease? : S → String → Option Entry
  claim_granted {store after : S} {now : Instant} {key token : String} {ttl : Duration}
    (answer : Store.call store now (.claim key token ttl) = (.ok true, after)) :
    (∀ lease, lease? store key = some lease → lease.hasEnded now = true) ∧
      ∃ ends, lease? after key = some ⟨token, ends⟩
  claim_refused {store after : S} {now : Instant} {key token : String} {ttl : Duration}
    (answer : Store.call store now (.claim key token ttl) = (.ok false, after)) :
    (∃ lease, lease? store key = some lease ∧ lease.hasEnded now = false) ∧
      lease? after key = lease? store key
  revoke_removed {store after : S} {now : Instant} {key token : String}
    (answer : Store.call store now (.revoke key token) = (.ok true, after)) :
    (∃ lease, lease? store key = some lease ∧ lease.token = token ∧
      lease.hasEnded now = false) ∧ lease? after key = none
  revoke_refused {store after : S} {now : Instant} {key token : String}
    (answer : Store.call store now (.revoke key token) = (.ok false, after)) :
    (∀ lease, lease? store key = some lease → lease.token = token →
      lease.hasEnded now = true) ∧ lease? after key = lease? store key
  check_answered {store after : S} {now : Instant} {key : String} {held : Bool}
    (answer : Store.call store now (.check key) = (.ok held, after)) :
    (held = true ↔ ∃ lease, lease? store key = some lease ∧ lease.hasEnded now = false) ∧
      lease? after key = lease? store key
  failed_unchanged {store after : S} {now : Instant} {call : Call} {error : StoreError}
    (answer : Store.call store now call = (.error error, after)) (key : String) :
    lease? after key = lease? store key
  others_unchanged {store after : S} {now : Instant} {call : Call} {reply : Reply}
    (answer : Store.call store now call = (reply, after)) (key : String)
    (other : key ≠ call.key) : lease? after key = lease? store key
  timeLeft_unchanged {store after : S} {now : Instant} {key : String}
    {left : Except StoreError (Option Duration)}
    (answer : Store.timeLeft store now key = (left, after)) (other : String) :
    lease? after other = lease? store other

namespace Lawful

variable {S : Type} [Store S] [Lawful S]

/-- A lease that has not ended survives every call but the one that revokes it
with its own token. -/
theorem kept {store after : S} {now : Instant} {call : Call} {reply : Reply} {key : String}
    {lease : Entry} (answer : Store.call store now call = (reply, after))
    (found : lease? store key = some lease) (live : lease.hasEnded now = false)
    (foreign : call ≠ .revoke key lease.token) : lease? after key = some lease := by
  by_cases same : key = call.key
  case neg => rw [others_unchanged answer key same, found]
  cases reply with
  | error error => rw [failed_unchanged answer, found]
  | ok value =>
      cases call with
      | claim other token ttl =>
          obtain rfl : key = other := same
          cases value with
          | true =>
              have ended := (claim_granted answer).1 lease found
              simp [live] at ended
          | false => rw [(claim_refused answer).2, found]
      | revoke other token =>
          obtain rfl : key = other := same
          cases value with
          | true =>
              obtain ⟨removed, atKey, tokenEqual, -⟩ := (revoke_removed answer).1
              cases found.symm.trans atKey
              exact absurd (by rw [tokenEqual]) foreign
          | false => rw [(revoke_refused answer).2, found]
      | check other =>
          obtain rfl : key = other := same
          rw [(check_answered answer).2, found]

/-- A lease was there before, or has just been granted. -/
theorem origin {store after : S} {now : Instant} {call : Call} {reply : Reply} {key : String}
    {lease : Entry} (answer : Store.call store now call = (reply, after))
    (found : lease? after key = some lease) :
    lease? store key = some lease ∨
      reply = .ok true ∧ ∃ ttl, call = .claim key lease.token ttl := by
  by_cases same : key = call.key
  case neg => exact .inl (others_unchanged answer key same ▸ found)
  cases reply with
  | error error => exact .inl (failed_unchanged answer key ▸ found)
  | ok value =>
      cases call with
      | claim other token ttl =>
          obtain rfl : key = other := same
          cases value with
          | true =>
              obtain ⟨ends, granted⟩ := (claim_granted answer).2
              cases found.symm.trans granted
              exact .inr ⟨rfl, ttl, rfl⟩
          | false => exact .inl ((claim_refused answer).2 ▸ found)
      | revoke other token =>
          obtain rfl : key = other := same
          cases value with
          | true =>
              rw [(revoke_removed answer).2] at found
              cases found
          | false => exact .inl ((revoke_refused answer).2 ▸ found)
      | check other =>
          obtain rfl : key = other := same
          exact .inl ((check_answered answer).2 ▸ found)

end Lawful

/-! ## Leases in memory -/

namespace Memory

theorem live?_eq_some_iff {memory : Memory} {now : Instant} {key : String} {lease : Entry} :
    memory.live? now key = some lease ↔
      memory.entries.get? key = some lease ∧ lease.hasEnded now = false := by
  unfold live?
  cases memory.entries.get? key with
  | none => simp
  | some found => cases ended : found.hasEnded now <;> grind

theorem live?_eq_none_iff {memory : Memory} {now : Instant} {key : String} :
    memory.live? now key = none ↔
      ∀ lease, memory.entries.get? key = some lease → lease.hasEnded now = true := by
  unfold live?
  cases memory.entries.get? key with
  | none => simp
  | some found => cases ended : found.hasEnded now <;> grind

/-- A memory answers every call. -/
theorem answers (memory : Memory) (now : Instant) (call : Call) :
    ∃ value, (Store.call memory now call).1 = .ok value := by
  cases call <;> exact ⟨_, rfl⟩

section Call

variable {memory after : Memory} {now : Instant} {call : Call} {reply : Reply}
  {key token : String} {ttl : Duration} {held : Bool}

theorem claim_granted (answer : memory.call now (.claim key token ttl) = (.ok true, after)) :
    (∀ lease, memory.entries.get? key = some lease → lease.hasEnded now = true) ∧
      ∃ ends, after.entries.get? key = some ⟨token, ends⟩ := by
  cases live : memory.live? now key with
  | some lease => simp [Memory.call, claim, live] at answer
  | none =>
      simp only [Memory.call, claim, live, Prod.mk.injEq, true_and] at answer
      subst after
      exact ⟨live?_eq_none_iff.mp live, now.later ttl, by simp⟩

theorem claim_refused (answer : memory.call now (.claim key token ttl) = (.ok false, after)) :
    (∃ lease, memory.entries.get? key = some lease ∧ lease.hasEnded now = false) ∧
      after.entries.get? key = memory.entries.get? key := by
  cases live : memory.live? now key with
  | none => simp [Memory.call, claim, live] at answer
  | some lease =>
      simp only [Memory.call, claim, live, Prod.mk.injEq, true_and] at answer
      subst after
      exact ⟨⟨lease, live?_eq_some_iff.mp live⟩, rfl⟩

theorem revoke_removed (answer : memory.call now (.revoke key token) = (.ok true, after)) :
    (∃ lease, memory.entries.get? key = some lease ∧ lease.token = token ∧
      lease.hasEnded now = false) ∧ after.entries.get? key = none := by
  cases live : memory.live? now key with
  | none => simp [Memory.call, revoke, live] at answer
  | some lease =>
      obtain ⟨found, running⟩ := live?_eq_some_iff.mp live
      by_cases own : lease.token = token
      · simp only [Memory.call, revoke, live, own, if_true, Prod.mk.injEq, true_and] at answer
        subst after
        exact ⟨⟨lease, found, own, running⟩, by simp⟩
      · simp [Memory.call, revoke, live, own] at answer

theorem revoke_refused (answer : memory.call now (.revoke key token) = (.ok false, after)) :
    (∀ lease, memory.entries.get? key = some lease → lease.token = token →
      lease.hasEnded now = true) ∧ after.entries.get? key = memory.entries.get? key := by
  cases live : memory.live? now key with
  | none =>
      simp only [Memory.call, revoke, live, Prod.mk.injEq, true_and] at answer
      subst after
      exact ⟨fun lease found _ => live?_eq_none_iff.mp live lease found, rfl⟩
  | some lease =>
      obtain ⟨found, -⟩ := live?_eq_some_iff.mp live
      by_cases own : lease.token = token
      · simp [Memory.call, revoke, live, own] at answer
      · simp only [Memory.call, revoke, live, own, if_false, Prod.mk.injEq, true_and] at answer
        subst after
        exact ⟨fun other atKey equal => by grind, rfl⟩

theorem check_answered (answer : memory.call now (.check key) = (.ok held, after)) :
    (held = true ↔
        ∃ lease, memory.entries.get? key = some lease ∧ lease.hasEnded now = false) ∧
      after.entries.get? key = memory.entries.get? key := by
  simp only [Memory.call, Prod.mk.injEq, Except.ok.injEq] at answer
  obtain ⟨rfl, rfl⟩ := answer
  refine ⟨?_, rfl⟩
  simp only [Option.isSome_iff_exists, live?_eq_some_iff]

/-- Memory answers every call. -/
theorem call_ne_error {error : StoreError} : memory.call now call ≠ (.error error, after) := by
  intro answer
  cases call <;> simp [Memory.call] at answer

theorem others_unchanged (answer : memory.call now call = (reply, after))
    (other : key ≠ call.key) : after.entries.get? key = memory.entries.get? key := by
  have away : call.key ≠ key := Ne.symm other
  cases call with
  | claim target token ttl =>
      simp only [Memory.call, claim] at answer
      split at answer <;> cases answer
      · rfl
      · exact (Table.get?_insert ..).trans (if_neg away)
  | revoke target token =>
      simp only [Memory.call, revoke] at answer
      split at answer
      · split at answer <;> cases answer
        · exact (Table.get?_erase ..).trans (if_neg away)
        · rfl
      · cases answer
        rfl
  | check target =>
      cases answer
      rfl

end Call

instance : Lawful Memory where
  lease? memory key := memory.entries.get? key
  claim_granted := claim_granted
  claim_refused := claim_refused
  revoke_removed := revoke_removed
  revoke_refused := revoke_refused
  check_answered := check_answered
  failed_unchanged answer _ := absurd answer call_ne_error
  others_unchanged answer _ := others_unchanged answer
  timeLeft_unchanged answer _ := by
    cases answer
    rfl

end Memory

end Coedit.Lease

namespace Coedit.Lock.Lockers

open Lease

variable {S : Type} [Store S] [Lawful S]

omit [Lawful S] in
/-- What a call made on behalf of a locker leaves in the store is what the store or
the failure given from outside leaves. -/
theorem call_cases {lockers after : Lockers S} {id : LockerId} {failure : Option StoreError}
    {now : Instant} {call : Call} {reply : Reply}
    (answer : lockers.call id failure now call = (reply, after)) :
    (∃ error, reply = .error error ∧ after.store = lockers.store) ∨
      Store.call lockers.store now call = (reply, after.store) := by
  cases failure with
  | some error =>
      left
      cases answer
      exact ⟨error, rfl, rfl⟩
  | none =>
      right
      cases answer
      rfl

/-- A lease that has not ended survives every call made on behalf of a locker but the
one that revokes it with its own token. -/
theorem call_kept {lockers after : Lockers S} {id : LockerId} {failure : Option StoreError}
    {now : Instant} {call : Call} {reply : Reply} {key : String} {lease : Entry}
    (answer : lockers.call id failure now call = (reply, after))
    (found : Lawful.lease? lockers.store key = some lease)
    (live : lease.hasEnded now = false) (foreign : call ≠ .revoke key lease.token) :
    Lawful.lease? after.store key = some lease := by
  rcases call_cases answer with ⟨-, -, unchanged⟩ | answered
  · rw [unchanged, found]
  · exact Lawful.kept answered found live foreign

/-- A lease was there before, or has just been granted to a locker. -/
theorem call_origin {lockers after : Lockers S} {id : LockerId} {failure : Option StoreError}
    {now : Instant} {call : Call} {reply : Reply} {key : String} {lease : Entry}
    (answer : lockers.call id failure now call = (reply, after))
    (found : Lawful.lease? after.store key = some lease) :
    Lawful.lease? lockers.store key = some lease ∨
      reply = .ok true ∧ ∃ ttl, call = .claim key lease.token ttl := by
  rcases call_cases answer with ⟨-, -, unchanged⟩ | answered
  · exact .inl (unchanged ▸ found)
  · exact Lawful.origin answered found

end Coedit.Lock.Lockers
