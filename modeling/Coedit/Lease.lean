import Coedit.Time

/-!
# Leases

A lease is an entry under a key that carries the token of its owner and ends at
a set time.  A lease store offers four operations on leases, each of them atomic;
whoever shares a store excludes one another on its keys.
-/

namespace Coedit

/-- Why a lease store fails. -/
inductive StoreError where
  /-- The store cannot be reached.  Nobody is ever given a lock because of it. -/
  | unavailable (detail : String)
  /-- What the store holds, or what it would hold, makes no sense. -/
  | malformed (detail : String)
  deriving DecidableEq, Repr

def StoreError.message : StoreError → String
  | .unavailable detail => "store unavailable: " ++ detail
  | .malformed detail => "serialization error: " ++ detail

namespace Lease

/-- The operations with a yes or no for an answer. -/
inductive Call where
  /-- Enter a lease unless there is a live one: was it entered? -/
  | claim (key token : String) (ttl : Duration)
  /-- Remove the lease if it is live and carries the token: was it removed? -/
  | revoke (key token : String)
  /-- Is there a live lease? -/
  | check (key : String)
  deriving DecidableEq, Repr

/-- The answer to a call. -/
abbrev Reply := Except StoreError Bool

/-- The key a call is about. -/
def Call.key : Call → String
  | .claim key _ _ => key
  | .revoke key _ => key
  | .check key => key

/-- The token a call names. -/
def Call.token? : Call → Option String
  | .claim _ token _ => some token
  | .revoke _ token => some token
  | .check _ => none

/-- A lease store that keeps its leases in an `S`.  Every operation reads the
clock once. -/
class Store (S : Type) where
  /-- Short name for health reports. -/
  name : S → String
  /-- Answer a call. -/
  call : S → Instant → Call → Reply × S
  /-- The time a live lease still has. -/
  timeLeft : S → Instant → String → Except StoreError (Option Duration) × S

end Lease

end Coedit
