import Coedit.Bytes

/-!
# Merge engines

What the hub asks of the engine that merges updates into documents.  The engine
alone understands the content of a document; everything else treats it as
bytes.
-/

namespace Coedit

/-- Why an engine turns an update or a document down. -/
inductive MergeError where
  | invalidUpdate (detail : String)
  | corruptDocument (detail : String)
  deriving DecidableEq, Repr

def MergeError.message : MergeError → String
  | .invalidUpdate detail => "invalid update: " ++ detail
  | .corruptDocument detail => "corrupt document content: " ++ detail

/-- What comes of merging an update into a document. -/
structure Merged where
  /-- The new content. -/
  content : Bytes
  /-- The update to pass on to the document's other sessions, if any. -/
  broadcast : Option Bytes
  deriving DecidableEq, Repr

/-- How an attempt to merge ends. -/
inductive Verdict where
  | merged (outcome : Merged)
  | refused (error : MergeError)
  /-- The engine broke down with this message. -/
  | crashed (message : String)
  deriving DecidableEq, Repr

/-- A merge engine. -/
structure Engine where
  name : String
  /-- What a peer that reports `vector` lacks of `content`. -/
  diff : (content vector : Bytes) → Except MergeError Bytes
  /-- Merge `update` into `content`. -/
  apply : (content update : Bytes) → Verdict

end Coedit
