import Coedit.Frame

/-!
# Outboxes

The frames on their way to one session.  An outbox holds a limited number of them
and delivers them in the order in which they came; what it has no room for is
lost.
-/

namespace Coedit

structure Outbox where
  /-- The frames inside, the oldest first. -/
  queue : List Frame
  /-- Whether the session still takes frames. -/
  isOpen : Bool
  deriving DecidableEq, Repr

namespace Outbox

/-- How many frames an outbox holds at most. -/
def capacity : Nat := 256

def empty : Outbox := ⟨[], true⟩

instance : Inhabited Outbox := ⟨empty⟩

/-- Whether one more frame fits. -/
def hasRoom (outbox : Outbox) : Bool := decide (outbox.queue.length < capacity)

/-- Whether a frame that is offered now is queued. -/
def accepts (outbox : Outbox) : Bool := outbox.isOpen && outbox.hasRoom

/-- Queue a frame if it is accepted. -/
def offer (outbox : Outbox) (frame : Frame) : Outbox :=
  if outbox.accepts then { outbox with queue := outbox.queue ++ [frame] } else outbox

/-- Take out everything. -/
def drain (outbox : Outbox) : List Frame × Outbox := (outbox.queue, { outbox with queue := [] })

/-- The session takes no more frames; those inside can still be taken out. -/
def close (outbox : Outbox) : Outbox := { outbox with isOpen := false }

end Outbox

end Coedit
