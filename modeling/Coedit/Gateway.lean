import Coedit.Site
import Coedit.Text

/-!
# The gateway

What the server answers to a request before any session is opened: a report on its
health, the switch to a session, or a refusal.  A request is looked at in a fixed
order: its path, its method, the encoding of the path, whether it asks for a
switch at all, the identifiers, and at last whether the server still takes work.
-/

namespace Coedit

/-! ## Percent encoding -/

namespace Text.Percent

/-- The bytes a part of a path stands for.  A `%` that two digits in base sixteen do not
follow stands for itself. -/
def decodeBytes : Bytes → Bytes
  | 0x25 :: high :: low :: rest =>
      match Bytes.hexValue? (Char.ofNat high.toNat), Bytes.hexValue? (Char.ofNat low.toNat) with
      | some upper, some lower => UInt8.ofNat (16 * upper + lower) :: decodeBytes rest
      | _, _ => 0x25 :: decodeBytes (high :: low :: rest)
  | byte :: rest => byte :: decodeBytes rest
  | [] => []

/-- The text a part of a path stands for, if its bytes encode one. -/
def decode? (part : String) : Option String :=
  (decodeBytes (Bytes.ofText part)).toText?

end Text.Percent

/-! ## Requests and answers -/

namespace Gateway

structure Request where
  method : String
  /-- The path and, after a question mark, what else was asked. -/
  target : String
  /-- Whether the request asks to switch to a session. -/
  upgrade : Bool
  deriving DecidableEq, Repr

/-- The refusals that say why. -/
inductive Refusal where
  | invalidIdentifier (identifier : String)
  | shuttingDown
  deriving DecidableEq, Repr

namespace Refusal

def message : Refusal → String
  | .invalidIdentifier identifier => "Invalid identifier: " ++ Text.quoted identifier
  | .shuttingDown => "Server is shutting down"

def code : Refusal → String
  | .invalidIdentifier _ => "INVALID_IDENTIFIER"
  | .shuttingDown => "SHUTTING_DOWN"

def status : Refusal → Nat
  | .invalidIdentifier _ => 400
  | .shuttingDown => 503

/-- What is said to the one who asked. -/
def body (refusal : Refusal) : String :=
  Json.renderMembers
    [("error", Json.renderText refusal.message), ("code", Json.renderText refusal.code)]

end Refusal

/-- The version the server reports. -/
def version : String := "0.3.0"

/-- A report on the server's health. -/
structure Health where
  healthy : Bool
  version : String
  /-- The name of the lease store. -/
  store : String
  stats : Service.Stats
  deriving DecidableEq, Repr

def Health.body (health : Health) : String :=
  Json.renderMembers
    [("healthy", toString health.healthy), ("version", Json.renderText health.version),
      ("store", Json.renderText health.store), ("stats", health.stats.render)]

/-- An answer to a request. -/
inductive Reply where
  | notFound
  | wrongMethod
  | badRequest
  /-- The report, or only that there is one. -/
  | health (report : Option Health)
  | refused (refusal : Refusal)
  /-- The connection becomes a session of this document. -/
  | switching (document : DocumentId)
  deriving DecidableEq, Repr

def Reply.status : Reply → Nat
  | .notFound => 404
  | .wrongMethod => 405
  | .badRequest => 400
  | .health _ => 200
  | .refused refusal => refusal.status
  | .switching _ => 101

/-- What is sent back beside the status, if anything says more than it. -/
def Reply.body? : Reply → Option String
  | .health report => report.map Health.body
  | .refused refusal => some refusal.body
  | _ => none

/-- Where a path leads. -/
inductive Route where
  | health
  /-- A document, by the parts of the path that name it. -/
  | document (workspace name : String)
  deriving DecidableEq, Repr

/-- The path of a target. -/
def pathOf (target : String) : String :=
  String.ofList (target.toList.takeWhile fun char => char ≠ '?' && char ≠ '#')

/-- Where a path leads.  The last part of a path is not empty. -/
def Route.ofPath? (path : String) : Option Route :=
  match path.splitOn "/" with
  | ["", "health"] => some .health
  | ["", "sync", workspace, name] =>
      if name.isEmpty then none else some (.document workspace name)
  | _ => none

/-- The document of a request, or why it is refused. -/
def screen (accepting : Bool) (document : DocumentId) : Except Refusal DocumentId :=
  if !Identifier.isAdmissible document.workspace then
    .error (.invalidIdentifier document.workspace)
  else if !Identifier.isAdmissible document.name then
    .error (.invalidIdentifier document.name)
  else if !accepting then .error .shuttingDown
  else .ok document

/-- Answer a request for a session. -/
def answerSession (request : Request) (accepting : Bool) (workspace name : String) : Reply :=
  match Text.Percent.decode? workspace, Text.Percent.decode? name with
  | some workspace, some name =>
      if request.method ≠ "GET" then .wrongMethod
      else if !request.upgrade then .badRequest
      else
        match screen accepting ⟨workspace, name⟩ with
        | .ok document => .switching document
        | .error refusal => .refused refusal
  | _, _ => .badRequest

/-- Answer a request.  A `HEAD` asks what a `GET` would be answered, without the
report. -/
def answer (request : Request) (report : Health) : Reply :=
  match Route.ofPath? (pathOf request.target) with
  | none => .notFound
  | some route =>
      if request.method ≠ "GET" ∧ request.method ≠ "HEAD" then .wrongMethod
      else
        match route with
        | .health => .health (if request.method = "GET" then some report else none)
        | .document workspace name => answerSession request report.healthy workspace name

end Gateway

end Coedit
