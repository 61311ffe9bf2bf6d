import Coedit.Hub

/-!
# Visits

A visit is the life of one session at the other end of a connection: it joins its
document, handles one message after the other, and leaves when the connection
ends.  A message that cannot be handled never ends a visit.  As in `Hubs`, any
order of the steps of the visits is a run.
-/

namespace Coedit

/-- Which visit. -/
abbrev VisitId := Nat

/-- What arrives over a connection. -/
inductive Arrival where
  | binary (bytes : Bytes)
  /-- Text and the connection's own signals, which mean nothing here. -/
  | other
  /-- The connection is closed, broken or at its end. -/
  | gone
  deriving DecidableEq, Repr

namespace Visit

inductive Phase where
  | listening
  | handling (job : JobId)
  /-- The answers to a frame are put into the session's own outbox. -/
  | replying (frames : List Frame)
  | leaving (job : JobId)
  | over
  deriving DecidableEq, Repr

end Visit

structure Visit where
  hub : HubId
  document : DocumentId
  session : SessionId
  phase : Visit.Phase
  deriving DecidableEq, Repr

/-- Hubs with their visits. -/
structure Visits (S B Ask : Type) (Answer : Ask → Type) where
  hubs : Hubs S B Ask Answer
  visits : Table VisitId Visit
  nextVisit : VisitId

namespace Visits

variable {S B Ask : Type} {Answer : Ask → Type}

def create (hubs : Hubs S B Ask Answer) : Visits S B Ask Answer := ⟨hubs, .empty, 0⟩

/-- A visit begins: its session joins. -/
def arrive (visits : Visits S B Ask Answer) (hub : HubId) (document : DocumentId) :
    Option VisitId × Visits S B Ask Answer :=
  match visits.hubs.join hub document with
  | (none, _) => (none, visits)
  | (some session, hubs) =>
      (some visits.nextVisit,
        ⟨hubs, visits.visits.insert visits.nextVisit ⟨hub, document, session, .listening⟩,
          visits.nextVisit + 1⟩)

def visit? (visits : Visits S B Ask Answer) (id : VisitId) : Option Visit :=
  visits.visits.get? id

def setPhase (visits : Visits S B Ask Answer) (id : VisitId) (phase : Visit.Phase) :
    Visits S B Ask Answer :=
  { visits with visits := visits.visits.modify id fun visit => { visit with phase := phase } }

/-- A visit that listens takes what arrives. -/
def receive (visits : Visits S B Ask Answer) (id : VisitId) (arrival : Arrival) :
    Visits S B Ask Answer :=
  match visits.visit? id with
  | some ⟨hub, document, session, .listening⟩ =>
      match arrival with
      | .binary bytes =>
          let (job, hubs) := visits.hubs.begin hub (Hub.handleBytes document session bytes)
          setPhase { visits with hubs := hubs } id (.handling job)
      | .other => visits
      | .gone =>
          let (job, hubs) := visits.hubs.begin hub (Hub.dismiss document session)
          setPhase { visits with hubs := hubs } id (.leaving job)
  | _ => visits

/-- The outbox of a visit's session. -/
def outbox (visits : Visits S B Ask Answer) (visit : Visit) : Outbox :=
  match visits.hubs.hubs.get? visit.hub with
  | some hub => hub.roster.outbox visit.session
  | none => .empty

/-- Change the roster of a hub. -/
def modifyRoster (visits : Visits S B Ask Answer) (hub : HubId) (change : Roster → Roster) :
    Visits S B Ask Answer :=
  { visits with hubs := { visits.hubs with
      hubs := visits.hubs.hubs.modify hub fun hub => { hub with roster := change hub.roster } } }

/-- A visit goes on: its job is done, or there is room for a reply. -/
def follow (visits : Visits S B Ask Answer) (id : VisitId) : Visits S B Ask Answer :=
  match visits.visit? id with
  | none => visits
  | some visit =>
      match visit.phase with
      | .handling job =>
          match visits.hubs.result? job with
          | some (.ok replies) => visits.setPhase id (.replying replies)
          | some (.error _) => visits.setPhase id .listening
          | none => visits
      | .replying [] => visits.setPhase id .listening
      | .replying (reply :: rest) =>
          let outbox := visits.outbox visit
          if !outbox.isOpen then visits.setPhase id .listening
          else if outbox.hasRoom then
            (visits.modifyRoster visit.hub fun roster =>
              (roster.send visit.session reply).2).setPhase id (.replying rest)
          else visits
      | .leaving job =>
          match visits.hubs.result? job with
          | some _ => visits.setPhase id .over
          | none => visits
      | .listening => visits
      | .over => visits

/-- The connection of a visit takes everything out of its outbox. -/
def deliver (visits : Visits S B Ask Answer) (id : VisitId) :
    List Frame × Visits S B Ask Answer :=
  match visits.visit? id with
  | none => ([], visits)
  | some visit =>
      ((visits.outbox visit).queue,
        visits.modifyRoster visit.hub fun roster => (roster.receive visit.session).2)

end Visits

end Coedit
