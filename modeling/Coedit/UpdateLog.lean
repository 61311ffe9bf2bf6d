import Coedit.Engine

/-!
# Update logs

A document kept as the list of its updates.  Each record is the length of the
update, in four bytes with the low byte first, and then the update itself.
Records are only ever appended, so earlier content is always the start of later
content.
-/

namespace Coedit.UpdateLog

/-- How content can fail to be a log. -/
inductive Fault where
  /-- Too few bytes are left for a length. -/
  | shortLength (left : Nat)
  /-- The last record announces more bytes than there are. -/
  | cutRecord (announced left : Nat)
  deriving DecidableEq, Repr

def Fault.message : Fault → String
  | .shortLength left => toString left ++ " trailing bytes, expected a length prefix"
  | .cutRecord announced left =>
      "record of " ++ toString announced ++ " bytes truncated to " ++ toString left

/-- One record. -/
def encodeRecord (update : Bytes) : Bytes :=
  Bytes.ofNatLE 4 update.length ++ update

/-- A log with these records. -/
def encode (updates : List Bytes) : Bytes := updates.flatMap encodeRecord

/-- Split a log into its records. -/
def records : Bytes → Except Fault (List Bytes)
  | [] => .ok []
  | b0 :: b1 :: b2 :: b3 :: rest =>
      let size := Bytes.toNatLE [b0, b1, b2, b3]
      if size ≤ rest.length then
        match records (rest.drop size) with
        | .ok later => .ok (rest.take size :: later)
        | .error fault => .error fault
      else
        .error (.cutRecord size rest.length)
  | short => .error (.shortLength short.length)
termination_by content => content.length
decreasing_by simp only [List.length_drop, List.length_cons]; omega

/-- The records of a document that is kept as a log. -/
def updates (content : Bytes) : Except MergeError (List Bytes) :=
  match records content with
  | .ok found => .ok found
  | .error fault => .error (.corruptDocument fault.message)

/-- The whole log, whatever the peer already has: peers apply an update again
without harm. -/
def diff (content _vector : Bytes) : Except MergeError Bytes :=
  match updates content with
  | .ok _ => .ok content
  | .error error => .error error

/-- Append an update to the log and pass it on.  An empty update is dropped. -/
def append (content update : Bytes) : Except MergeError Merged :=
  match updates content with
  | .error error => .error error
  | .ok _ =>
      if update.isEmpty then
        .ok ⟨content, none⟩
      else if update.length < UInt32.size then
        .ok ⟨content ++ encodeRecord update, some update⟩
      else
        .error (.invalidUpdate (toString update.length ++ " bytes is too large"))

/-- The engine that keeps documents as logs. -/
def engine : Engine where
  name := "update-log"
  diff := diff
  apply content update :=
    match append content update with
    | .ok outcome => .merged outcome
    | .error error => .refused error

end Coedit.UpdateLog
