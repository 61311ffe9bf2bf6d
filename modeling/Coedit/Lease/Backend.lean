import Coedit.Lease.Files
import Coedit.Lease.Memory

/-!
# The lease stores to choose from
-/

namespace Coedit.Lease

/-- A lease store of either kind. -/
inductive Backend where
  | memory (memory : Memory)
  | directory (directory : Directory)

namespace Backend

/-- Whether a call to the store takes time in which others can go on. -/
def isSlow : Backend → Bool
  | .memory _ => false
  | .directory _ => true

instance : Store Backend where
  name
    | .memory store => Store.name store
    | .directory store => Store.name store
  call backend now call :=
    match backend with
    | .memory store =>
        let (reply, after) := Store.call store now call
        (reply, .memory after)
    | .directory store =>
        let (reply, after) := Store.call store now call
        (reply, .directory after)
  timeLeft backend now key :=
    match backend with
    | .memory store =>
        let (left, after) := Store.timeLeft store now key
        (left, .memory after)
    | .directory store =>
        let (left, after) := Store.timeLeft store now key
        (left, .directory after)

end Backend

end Coedit.Lease
