import Coedit.Lease
import Coedit.Table

/-!
# Leases in memory

The lease store of a single process.  A lease that has ended stays in the table
until its key is claimed again or the table is purged; nothing but `purge` can
tell.
-/

namespace Coedit.Lease

/-- A lease as it is kept in memory. -/
structure Entry where
  token : String
  ends : Instant
  deriving DecidableEq, Repr

/-- A lease has ended from its end on. -/
def Entry.hasEnded (entry : Entry) (now : Instant) : Bool := decide (entry.ends ≤ now)

/-- Leases by key. -/
structure Memory where
  entries : Table String Entry

namespace Memory

def empty : Memory := ⟨.empty⟩

instance : Inhabited Memory := ⟨empty⟩

/-- The live lease at a key. -/
def live? (memory : Memory) (now : Instant) (key : String) : Option Entry :=
  match memory.entries.get? key with
  | some entry => if entry.hasEnded now then none else some entry
  | none => none

def claim (memory : Memory) (now : Instant) (key token : String) (ttl : Duration) :
    Bool × Memory :=
  match memory.live? now key with
  | some _ => (false, memory)
  | none => (true, ⟨memory.entries.insert key ⟨token, now.later ttl⟩⟩)

def revoke (memory : Memory) (now : Instant) (key token : String) : Bool × Memory :=
  match memory.live? now key with
  | some entry =>
      if entry.token = token then (true, ⟨memory.entries.erase key⟩) else (false, memory)
  | none => (false, memory)

/-- The time the live lease at a key still has. -/
def timeLeft? (memory : Memory) (now : Instant) (key : String) : Option Duration :=
  (memory.live? now key).map fun entry => entry.ends.since now

/-- Forget the leases that have ended, and count them. -/
def purge (memory : Memory) (now : Instant) : Nat × Memory :=
  let kept := memory.entries.filter fun _ entry => !entry.hasEnded now
  (memory.entries.size - kept.size, ⟨kept⟩)

/-- Answer a call; a memory never fails. -/
def call (memory : Memory) (now : Instant) : Call → Reply × Memory
  | .claim key token ttl =>
      let (entered, after) := memory.claim now key token ttl
      (.ok entered, after)
  | .revoke key token =>
      let (removed, after) := memory.revoke now key token
      (.ok removed, after)
  | .check key => (.ok (memory.live? now key).isSome, memory)

instance : Store Memory where
  name _ := "memory"
  call := call
  timeLeft memory now key := (.ok (memory.timeLeft? now key), memory)

end Memory

end Coedit.Lease
