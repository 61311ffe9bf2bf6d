import Coedit.Lock.Acquisition
import Coedit.Table

/-!
# Lockers

A locker gets and gives back locks on behalf of one instance and remembers the
tokens it got and has not given back.  Lockers that share a store are one another's
competitors.
-/

namespace Coedit.Lock

/-- A lock that is held, as its holder knows it. -/
structure Hold where
  key : String
  token : String
  /-- When it was had. -/
  since : Instant
  ttl : Duration
  deriving DecidableEq, Repr

structure Locker where
  settings : Settings
  /-- The tokens got and not given back, with their keys. -/
  held : Table String String

namespace Locker

/-- A locker, unless its settings make no sense. -/
def create (settings : Settings) : Except SettingsError Locker :=
  match settings.validate with
  | .ok () => .ok ⟨settings, .empty⟩
  | .error error => .error error

/-- Keep track of an answered call: a successful claim adds its token; an answered
revocation, whether it removed anything or not, drops it.  After a failure the
token stays, so that it can be given back later. -/
def record (locker : Locker) (call : Lease.Call) (reply : Lease.Reply) : Locker :=
  match call, reply with
  | .claim key token _, .ok true => { locker with held := locker.held.insert token key }
  | .revoke _ token, .ok _ => { locker with held := locker.held.erase token }
  | _, _ => locker

/-- How many tokens are still to be given back. -/
def heldCount (locker : Locker) : Nat := locker.held.size

/-- The calls that give back everything still held. -/
def revocations (locker : Locker) : List Lease.Call :=
  locker.held.entries.map fun entry => .revoke entry.2 entry.1

end Locker

/-- Which locker. -/
abbrev LockerId := Nat

/-- Lockers that share a lease store. -/
structure Lockers (S : Type) where
  store : S
  members : Table LockerId Locker

namespace Lockers

variable {S : Type} [Lease.Store S]

/-- Make a call on behalf of a locker.  A failure given from outside comes in
place of the store's answer and leaves the store as it is. -/
def call (lockers : Lockers S) (id : LockerId) (failure : Option StoreError) (now : Instant)
    (call : Lease.Call) : Lease.Reply × Lockers S :=
  let (reply, store) : Lease.Reply × S :=
    match failure with
    | some error => (.error error, lockers.store)
    | none => Lease.Store.call lockers.store now call
  (reply, ⟨store, lockers.members.modify id (·.record call reply)⟩)

/-- Carry an acquisition on: make the call it needs, or let its pause be over.
The call takes effect at `now`; the answer arrives at the moment. -/
def carryOn (lockers : Lockers S) (id : LockerId) (acquisition : Acquisition)
    (failure : Option StoreError) (now : Instant) (moment : Moment) :
    Acquisition × Lockers S :=
  match acquisition.need? with
  | some (.call call) =>
      let (reply, after) := lockers.call id failure now call
      (acquisition.answered reply moment, after)
  | some (.pause _) => (acquisition.rested moment, lockers)
  | none => (acquisition, lockers)

/-- Give a hold back: was its lease still there?  A failure counts as no. -/
def release (lockers : Lockers S) (id : LockerId) (failure : Option StoreError) (now : Instant)
    (hold : Hold) : Bool × Lockers S :=
  match lockers.call id failure now (.revoke hold.key hold.token) with
  | (.ok removed, after) => (removed, after)
  | (.error _, after) => (false, after)

end Lockers

end Coedit.Lock
