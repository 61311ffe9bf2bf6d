import Coedit.Document
import Coedit.Hub.Error
import Coedit.Program
import Coedit.Roster

/-!
# Handling frames

What a hub does with a frame, with a session that leaves, and with its documents
when it shuts down: which section of the document it opens and whom it tells.
Frames go out to other sessions only after the section has ended.
-/

namespace Coedit.Hub

/-- What is to be done under the lock of a document. -/
inductive Task where
  /-- Tell what a peer lacks that reports this vector. -/
  | diff (vector : Bytes)
  | merge (update : Bytes)
  | flush
  | evict
  deriving DecidableEq, Repr

/-- What handling asks of the hub. -/
inductive Call where
  /-- Open a section; the answer is what it hands out, if anything. -/
  | section (document : DocumentId) (task : Task)
  /-- Offer a frame to the document's other sessions. -/
  | broadcast (document : DocumentId) (sender : SessionId) (frame : Frame)
  /-- Remember the presence of a session. -/
  | announce (document : DocumentId) (session : SessionId) (payload : Bytes)
  /-- The presences at a document. -/
  | presences (document : DocumentId)
  /-- A session leaves; how many are left? -/
  | depart (document : DocumentId) (session : SessionId)
  | isLoaded (document : DocumentId)
  deriving DecidableEq, Repr

/-- The answer to a call. -/
abbrev Call.Answer : Call → Type
  | .section _ _ => Except (Operation.Failure Section.Error) (Option Bytes)
  | .broadcast _ _ _ => Nat
  | .announce _ _ _ => Unit
  | .presences _ => List Bytes
  | .depart _ _ => Nat
  | .isLoaded _ => Bool

/-- How handling ends: with the frames for the session itself, or with an error. -/
abbrev Outcome := Except (HubError Empty) (List Frame)

/-- A program over a hub. -/
abbrev Handling := Program Call Call.Answer Outcome

/-- Open a section and go on with what it hands out. -/
def inSection (document : DocumentId) (task : Task) (next : Option Bytes → Handling) :
    Handling :=
  .ask (.section document task) fun
    | .ok handed => next handed
    | .error failure => .done (.error (.ofFailure failure))

/-- Handle a frame that could be read. -/
def handle (document : DocumentId) (session : SessionId) (frame : Frame) : Handling :=
  match frame.kind with
  | .sync .request =>
      inSection document (.diff frame.payload) fun lacking =>
        .done (.ok [.sync .answer (lacking.getD [])])
  | .sync _ =>
      inSection document (.merge frame.payload) fun
        | some update =>
            .ask (.broadcast document session (.sync .update update)) fun _ => .done (.ok [])
        | none => .done (.ok [])
  | .awareness =>
      .ask (.announce document session frame.payload) fun _ =>
        .ask (.broadcast document session frame) fun _ => .done (.ok [])
  | .query =>
      .ask (.presences document) fun payloads => .done (.ok (payloads.map .awareness))
  | .auth => .done (.ok [])

/-- Handle the bytes of a frame; bytes that are no frame change nothing. -/
def handleBytes (document : DocumentId) (session : SessionId) (bytes : Bytes) : Handling :=
  match Frame.decode bytes with
  | .ok frame => handle document session frame
  | .error error => .done (.error (.malformed error))

/-- Let a session leave.  After the last one the document is stored and dropped
from memory. -/
def dismiss (document : DocumentId) (session : SessionId) : Handling :=
  .ask (.depart document session) fun left =>
    if left > 0 then .done (.ok [])
    else
      .ask (.isLoaded document) fun loaded =>
        if loaded then inSection document .evict fun _ => .done (.ok []) else .done (.ok [])

/-- Store documents one after the other, whatever becomes of each. -/
def flushAll : List DocumentId → Handling
  | [] => .done (.ok [])
  | document :: rest => .ask (.section document .flush) fun _ => flushAll rest

end Coedit.Hub
