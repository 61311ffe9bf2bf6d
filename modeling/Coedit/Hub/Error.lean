import Coedit.Archive
import Coedit.Engine
import Coedit.Frame
import Coedit.Operation.Failure

/-!
# Why a frame is not handled

The failures of a hub.  What goes wrong inside a section of a document comes out
as what it was, not as the failure of the operation around it.
-/

namespace Coedit

/-- What goes wrong while a document is worked on under its lock. -/
inductive Section.Error where
  | merge (error : MergeError)
  | archive (error : ArchiveError)
  deriving DecidableEq, Repr

/-- Why a hub does not do what it was asked.  Operations have errors of their own
of type `ε`. -/
inductive HubError (ε : Type) where
  | malformed (error : FrameError)
  | operation (failure : Operation.Failure ε)
  | merge (error : MergeError)
  | archive (error : ArchiveError)
  deriving DecidableEq, Repr

namespace HubError

variable {ε : Type}

def code : HubError ε → String
  | .malformed error => error.code
  | .operation failure => failure.reason.code
  | .merge _ => "MERGE_FAILED"
  | .archive _ => "PERSISTENCE_FAILED"

/-- The text of an error; `describe` gives the text of an operation's own error. -/
def message (describe : ε → String) : HubError ε → String
  | .malformed error => "malformed frame: " ++ error.message
  | .operation failure => failure.message describe
  | .merge error => "merge failed: " ++ error.message
  | .archive error => "persistence failed: " ++ error.message

/-- The failure of the operation around a section, as the hub reports it: the
section's own error if there is one, and otherwise the failure itself. -/
def ofFailure : Operation.Failure Section.Error → HubError ε
  | .failed _ (.error (.merge error)) => .merge error
  | .failed _ (.error (.archive error)) => .archive error
  | .failed resource (.panic message) => .operation (.failed resource (.panic message))
  | .lockTimeout resource waited => .operation (.lockTimeout resource waited)
  | .unavailable resource source => .operation (.unavailable resource source)
  | .cancelled resource => .operation (.cancelled resource)
  | .rejected resource => .operation (.rejected resource)

end HubError

end Coedit
