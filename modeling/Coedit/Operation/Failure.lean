import Coedit.Lock.Attempt

/-!
# How operations fail

The failures of an operation under a lock, with the code each carries.  The
operation's own errors are of a type `ε` that only its author knows.
-/

namespace Coedit.Operation

/-- The codes of failures. -/
inductive Reason where
  | lockTimeout
  | operationFailed
  | providerUnavailable
  | cancelled
  | rejected
  deriving DecidableEq, Repr

namespace Reason

def all : List Reason :=
  [.lockTimeout, .operationFailed, .providerUnavailable, .cancelled, .rejected]

def code : Reason → String
  | .lockTimeout => "LOCK_TIMEOUT"
  | .operationFailed => "OPERATION_FAILED"
  | .providerUnavailable => "PROVIDER_UNAVAILABLE"
  | .cancelled => "CANCELLED"
  | .rejected => "REJECTED"

end Reason

/-- How the body of an operation ends. -/
inductive Ending (α ε : Type) where
  | value (value : α)
  | error (error : ε)
  /-- The body broke down; there is a message only if what it broke down with is
  a text. -/
  | panic (message : Option String)
  deriving DecidableEq, Repr

/-- Why a body has no value. -/
inductive Cause (ε : Type) where
  | error (error : ε)
  | panic (message : Option String)
  deriving DecidableEq, Repr

/-- The text of a breakdown. -/
def panicMessage (message : Option String) : String :=
  "operation panicked: " ++ message.getD "unknown panic payload"

def Cause.message {ε : Type} (describe : ε → String) : Cause ε → String
  | .error own => describe own
  | .panic message => panicMessage message

/-- Why an operation has no value.  `resource` is the key it was to lock. -/
inductive Failure (ε : Type) where
  | lockTimeout (resource : String) (waited : Duration)
  /-- The body ran under the lock and failed; the lock was given back first. -/
  | failed (resource : String) (cause : Cause ε)
  | unavailable (resource : String) (source : Lock.Failure)
  | cancelled (resource : String)
  | rejected (resource : String)
  deriving DecidableEq, Repr

namespace Failure

variable {ε : Type}

/-- A lock that was not had, as the failure of the operation that wanted it. -/
def ofLock (resource : String) : Lock.Failure → Failure ε
  | .timeout _ waited => .lockTimeout resource waited
  | .unavailable key source => .unavailable resource (.unavailable key source)

/-- A failed question about a key. -/
def ofStore (key : String) (source : StoreError) : Failure ε :=
  .unavailable key (.unavailable key source)

def reason : Failure ε → Reason
  | .lockTimeout .. => .lockTimeout
  | .failed .. => .operationFailed
  | .unavailable .. => .providerUnavailable
  | .cancelled _ => .cancelled
  | .rejected _ => .rejected

def resource : Failure ε → String
  | .lockTimeout resource _ => resource
  | .failed resource _ => resource
  | .unavailable resource _ => resource
  | .cancelled resource => resource
  | .rejected resource => resource

/-- The text of a failure; `describe` gives the text of an operation's own error. -/
def message (describe : ε → String) : Failure ε → String
  | .lockTimeout resource waited =>
      "timed out after " ++ waited.render ++ " acquiring lock " ++ resource
  | .failed resource cause =>
      "operation on " ++ resource ++ " failed: " ++ cause.message describe
  | .unavailable resource source =>
      "lock provider unavailable for " ++ resource ++ ": " ++ source.message
  | .cancelled resource => "operation on " ++ resource ++ " was cancelled"
  | .rejected resource => "operation on " ++ resource ++ " rejected: service is shut down"

end Failure

end Coedit.Operation
