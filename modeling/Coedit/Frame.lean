import Coedit.Bytes

/-!
# Frames

The binary messages that peers exchange.  A frame is one byte for the kind of
message, for a sync message one more byte for the step, and the payload, which
is passed through untouched.
-/

namespace Coedit

/-- Which of the three sync messages a frame is. -/
inductive SyncStep where
  /-- Asks for what the sender lacks; the payload is its state vector. -/
  | request
  /-- Answers a request; the payload is the missing update. -/
  | answer
  /-- An incremental update. -/
  | update
  deriving DecidableEq, Repr

/-- The kind of a frame; only a sync frame has a step. -/
inductive FrameKind where
  | sync (step : SyncStep)
  | awareness
  | auth
  | query
  deriving DecidableEq, Repr

/-- One message between peers. -/
structure Frame where
  kind : FrameKind
  payload : Bytes
  deriving DecidableEq, Repr

/-- Why a byte string is no frame. -/
inductive FrameError where
  | empty
  | unknownKind (byte : UInt8)
  | missingStep
  | unknownStep (byte : UInt8)
  deriving DecidableEq, Repr

namespace FrameError

def message : FrameError → String
  | .empty => "empty frame"
  | .unknownKind byte => "unknown message type " ++ toString byte.toNat
  | .missingStep => "sync frame is missing its sync step byte"
  | .unknownStep byte => "unknown sync step " ++ toString byte.toNat

/-- All malformed frames carry the same code. -/
def code (_ : FrameError) : String := "MALFORMED_FRAME"

end FrameError

namespace SyncStep

def toByte : SyncStep → UInt8
  | .request => 0
  | .answer => 1
  | .update => 2

def ofByte? (byte : UInt8) : Except FrameError SyncStep :=
  if byte = 0 then .ok .request
  else if byte = 1 then .ok .answer
  else if byte = 2 then .ok .update
  else .error (.unknownStep byte)

end SyncStep

/-- The byte a frame of this kind starts with. -/
def FrameKind.toByte : FrameKind → UInt8
  | .sync _ => 0
  | .awareness => 1
  | .auth => 2
  | .query => 3

namespace Frame

/-- A sync frame. -/
def sync (step : SyncStep) (payload : Bytes) : Frame := ⟨.sync step, payload⟩

/-- A presence announcement. -/
def awareness (payload : Bytes) : Frame := ⟨.awareness, payload⟩

def auth (payload : Bytes) : Frame := ⟨.auth, payload⟩

/-- A question for everyone's presence; it needs no payload. -/
def query : Frame := ⟨.query, []⟩

def isSync (frame : Frame) : Bool :=
  match frame.kind with
  | .sync _ => true
  | _ => false

def isAwareness (frame : Frame) : Bool := frame.kind == .awareness

def isAuth (frame : Frame) : Bool := frame.kind == .auth

def isQuery (frame : Frame) : Bool := frame.kind == .query

/-- Whether this is the sync frame of the given step. -/
def isStep (step : SyncStep) (frame : Frame) : Bool := frame.kind == .sync step

/-- The step of a sync frame. -/
def step? (frame : Frame) : Option SyncStep :=
  match frame.kind with
  | .sync step => some step
  | _ => none

/-- The bytes of a frame. -/
def encode (frame : Frame) : Bytes :=
  match frame.kind with
  | .sync step => 0 :: step.toByte :: frame.payload
  | kind => kind.toByte :: frame.payload

/-- Read a frame.  The step byte exists only in sync frames; a byte that names
no kind or no step is refused. -/
def decode : Bytes → Except FrameError Frame
  | [] => .error .empty
  | kind :: rest =>
      if kind = 0 then
        match rest with
        | [] => .error .missingStep
        | byte :: payload =>
            match SyncStep.ofByte? byte with
            | .ok step => .ok (sync step payload)
            | .error error => .error error
      else if kind = 1 then .ok (awareness rest)
      else if kind = 2 then .ok (auth rest)
      else if kind = 3 then .ok ⟨.query, rest⟩
      else .error (.unknownKind kind)

end Frame

end Coedit
