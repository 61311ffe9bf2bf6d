import Coedit.Document
import Coedit.Outbox
import Coedit.Table

/-!
# The roster of sessions

Which sessions are present at which document, what each of them last said about
itself, and how to reach them.  The sessions of a document are gathered in a room;
a register leads from the document to its room.

Joining and leaving take several atomic steps, between which others may come and
go: `enter` and `sit` to join, `room?`, `rise` and `sweep` to leave.  `join` and
`leave` are those steps in one go.
-/

namespace Coedit

/-- Which session. -/
abbrev SessionId := Nat

/-- Which room. -/
abbrev RoomId := Nat

/-- The sessions of a document with the presence they last announced. -/
structure Room where
  seats : Table SessionId (Option Bytes)

def Room.empty : Room := ⟨.empty⟩

structure Roster where
  /-- All rooms, those included that are no longer registered. -/
  rooms : Table RoomId Room
  /-- The room of each document that has one. -/
  register : Table DocumentId RoomId
  outboxes : Table SessionId Outbox
  nextSession : SessionId
  nextRoom : RoomId

namespace Roster

def empty : Roster := ⟨.empty, .empty, .empty, 1, 0⟩

instance : Inhabited Roster := ⟨empty⟩

/-- The registered room of a document. -/
def room? (roster : Roster) (document : DocumentId) : Option RoomId :=
  roster.register.get? document

def roomAt (roster : Roster) (room : RoomId) : Room := (roster.rooms.get? room).getD .empty

def setRoom (roster : Roster) (id : RoomId) (room : Room) : Roster :=
  { roster with rooms := roster.rooms.insert id room }

/-- The sessions and presences of a document. -/
def seats (roster : Roster) (document : DocumentId) : List (SessionId × Option Bytes) :=
  match roster.room? document with
  | none => []
  | some room => (roster.roomAt room).seats.entries

/-- A new session comes to a document: it gets its number, its outbox, and the
room of the document, which is opened if there is none. -/
def enter (roster : Roster) (document : DocumentId) : (SessionId × RoomId) × Roster :=
  let session := roster.nextSession
  let roster := { roster with
    nextSession := session + 1
    outboxes := roster.outboxes.insert session .empty }
  match roster.room? document with
  | some room => ((session, room), roster)
  | none =>
      let room := roster.nextRoom
      ((session, room), { roster with
        rooms := roster.rooms.insert room .empty
        register := roster.register.insert document room
        nextRoom := room + 1 })

/-- A session sits down in a room. -/
def sit (roster : Roster) (room : RoomId) (session : SessionId) : Roster :=
  roster.setRoom room ⟨(roster.roomAt room).seats.insert session none⟩

/-- Join a document. -/
def join (roster : Roster) (document : DocumentId) : SessionId × Roster :=
  let ((session, room), entered) := roster.enter document
  (session, entered.sit room session)

/-- A session gets up; how many are left in the room? -/
def rise (roster : Roster) (room : RoomId) (session : SessionId) : Nat × Roster :=
  let seats := (roster.roomAt room).seats.erase session
  (seats.size, roster.setRoom room ⟨seats⟩)

/-- Take a room off the register if it is the registered one, nobody sits in it, and
nobody but the register and the one who sweeps has to do with it.  `visitors`
counts the latter two and everyone else on the way in or out. -/
def sweep (roster : Roster) (document : DocumentId) (room : RoomId) (visitors : Nat) : Roster :=
  if visitors ≤ 2 ∧ (roster.roomAt room).seats.isEmpty = true ∧
      roster.room? document = some room then
    { roster with register := roster.register.erase document }
  else roster

/-- Leave a document; how many sessions has it left? -/
def leave (roster : Roster) (document : DocumentId) (session : SessionId) : Nat × Roster :=
  match roster.room? document with
  | none => (0, roster)
  | some room =>
      let (left, risen) := roster.rise room session
      (left, if left = 0 then risen.sweep document room 2 else risen)

/-- How many sessions a document has. -/
def count (roster : Roster) (document : DocumentId) : Nat := (roster.seats document).length

def outbox (roster : Roster) (session : SessionId) : Outbox :=
  (roster.outboxes.get? session).getD .empty

def modifyOutbox (roster : Roster) (session : SessionId) (change : Outbox → Outbox) : Roster :=
  { roster with outboxes := roster.outboxes.modify session change }

/-- Put a frame into the outbox of a session: was it queued? -/
def send (roster : Roster) (session : SessionId) (frame : Frame) : Bool × Roster :=
  ((roster.outboxes.get? session).any Outbox.accepts,
    roster.modifyOutbox session (·.offer frame))

/-- Take out everything in the outbox of a session. -/
def receive (roster : Roster) (session : SessionId) : List Frame × Roster :=
  ((roster.outbox session).queue, roster.modifyOutbox session fun outbox => outbox.drain.2)

/-- Offer a frame to every session of a document but one; how many outboxes took
it? -/
def broadcast (roster : Roster) (document : DocumentId) (sender : SessionId) (frame : Frame) :
    Nat × Roster :=
  ((roster.seats document).filter fun seat => seat.1 ≠ sender).foldl
    (fun (reached, roster) seat =>
      let (queued, after) := roster.send seat.1 frame
      (if queued then reached + 1 else reached, after))
    (0, roster)

/-- A session announces its presence; only those at the document are heard. -/
def setAwareness (roster : Roster) (document : DocumentId) (session : SessionId)
    (payload : Bytes) : Roster :=
  match roster.room? document with
  | none => roster
  | some room =>
      let seats := (roster.roomAt room).seats
      if seats.contains session then
        roster.setRoom room ⟨seats.insert session (some payload)⟩
      else roster

/-- The last presence of every session of a document that has announced one. -/
def awareness (roster : Roster) (document : DocumentId) : List Bytes :=
  (roster.seats document).filterMap Prod.snd

end Roster

end Coedit
