import Coedit.Proofs.Hub.Frames
import Coedit.Proofs.Roster.Rooms

/-!
# Foyers

Hubs at which rooms are looked up first and used later.  To join, to pass a frame on and
to leave take two steps each, and others may come and go between them; who has looked a
room up has to do with it until he has done what he came for.  Without others these are
the steps of hubs, and with them hubs take one of their courses.
-/

namespace Coedit

/-- Who has to do with a room. -/
inductive Visitor.Name where
  | session (id : SessionId)
  | job (id : JobId)
  /-- Somebody who changes nothing in it. -/
  | guest (number : Nat)
  deriving DecidableEq

/-- Somebody who has looked up the room of a document. -/
structure Visitor where
  hub : HubId
  document : DocumentId
  name : Visitor.Name
  deriving DecidableEq

/-- Hubs, and who has looked up which room at them. -/
structure Foyer (S B Ask : Type) (Answer : Ask → Type) where
  hubs : Hubs S B Ask Answer
  visits : Table Visitor RoomId

/-- The roster of a hub. -/
def Hubs.roster? {S B Ask : Type} {Answer : Ask → Type} (hubs : Hubs S B Ask Answer)
    (id : HubId) : Option Roster :=
  (hubs.hubs.get? id).map Hub.roster

namespace Foyer

variable {S B Fault Ask : Type} {Answer : Ask → Type}

/-! ## Steps -/

/-- How many have to do with a room, the register among them. -/
def visitors (foyer : Foyer S B Ask Answer) (hub : HubId) (room : RoomId) : Nat :=
  1 + (foyer.visits.entries.filter fun entry => entry.1.hub = hub ∧ entry.2 = room).length

/-- A session comes to a document and is shown the room. -/
def arrive (foyer : Foyer S B Ask Answer) (id : HubId) (document : DocumentId) :
    Foyer S B Ask Answer :=
  match foyer.hubs.hubs.get? id with
  | none => foyer
  | some hub =>
      let ((session, room), roster) := hub.roster.enter document
      { hubs := foyer.hubs.setHub id { hub with roster := roster }
        visits := foyer.visits.insert ⟨id, document, .session session⟩ room }

/-- A session that was shown its room sits down. -/
def sit (foyer : Foyer S B Ask Answer) (id : HubId) (document : DocumentId)
    (session : SessionId) : Foyer S B Ask Answer :=
  match foyer.visits.get? ⟨id, document, .session session⟩ with
  | none => foyer
  | some room =>
      { hubs := foyer.hubs.modifyRoster id fun roster => roster.sit room session
        visits := foyer.visits.erase ⟨id, document, .session session⟩ }

/-- Somebody looks up the room of a document to see who is there. -/
def visit (foyer : Foyer S B Ask Answer) (guest : Nat) (id : HubId) (document : DocumentId) :
    Foyer S B Ask Answer :=
  match (foyer.hubs.roster? id).bind fun roster => roster.room? document with
  | none => foyer
  | some room => { foyer with visits := foyer.visits.insert ⟨id, document, .guest guest⟩ room }

/-- He has seen it. -/
def quit (foyer : Foyer S B Ask Answer) (guest : Nat) (id : HubId) (document : DocumentId) :
    Foyer S B Ask Answer :=
  { foyer with visits := foyer.visits.erase ⟨id, document, .guest guest⟩ }

/-- A job goes on that has something to do in the room of a document: it looks the room
up, and if there is one it does there what it has to. -/
def attend (foyer : Foyer S B Ask Answer) (id : JobId) (home : HubId) (document : DocumentId)
    (act : Roster → RoomId → Nat → Nat × Roster) (next : Nat → Hub.Handling) :
    Foyer S B Ask Answer :=
  match foyer.hubs.hubs.get? home with
  | none => foyer
  | some hub =>
      match foyer.visits.get? ⟨home, document, .job id⟩ with
      | some room =>
          let (answer, roster) := act hub.roster room (foyer.visitors home room)
          { hubs := (foyer.hubs.setHub home { hub with roster := roster }).setJob id
              ⟨home, next answer, none⟩
            visits := foyer.visits.erase ⟨home, document, .job id⟩ }
      | none =>
          match hub.roster.room? document with
          | some room =>
              { foyer with visits := foyer.visits.insert ⟨home, document, .job id⟩ room }
          | none => { foyer with hubs := foyer.hubs.setJob id ⟨home, next 0, none⟩ }

/-- A job goes on that waits for nothing. -/
def step (foyer : Foyer S B Ask Answer) (id : JobId) (moment : Lock.Moment) :
    Foyer S B Ask Answer :=
  match foyer.hubs.jobs.get? id with
  | some ⟨home, .ask (.broadcast document sender frame) next, none⟩ =>
      foyer.attend id home document (fun roster room _ => roster.pass room sender frame) next
  | some ⟨home, .ask (.depart document session) next, none⟩ =>
      foyer.attend id home document
        (fun roster room visitors => roster.part document room session visitors) next
  | _ => { foyer with hubs := foyer.hubs.step id moment }

/-- What can happen at foyers: what can happen at hubs, where sessions that join have
still to sit down, and guests. -/
inductive Move (B Fault : Type) where
  | hubs (move : Hubs.Move B Fault)
  | sit (hub : HubId) (document : DocumentId) (session : SessionId)
  | visit (guest : Nat) (hub : HubId) (document : DocumentId)
  | quit (guest : Nat) (hub : HubId) (document : DocumentId)

/-- The foyer after a move. -/
def after [Lease.Store S] [Medium B Fault Ask Answer] (foyer : Foyer S B Ask Answer) :
    Move B Fault → Foyer S B Ask Answer
  | .hubs (.join hub document) => foyer.arrive hub document
  | .hubs (.step job moment) => foyer.step job moment
  | .hubs move => { foyer with hubs := foyer.hubs.after move }
  | .sit hub document session => foyer.sit hub document session
  | .visit guest hub document => foyer.visit guest hub document
  | .quit guest hub document => foyer.quit guest hub document

/-- What a move is to the hubs: who sits down or looks around is still about to join. -/
def Move.atHubs : Move B Fault → Hubs.Move B Fault
  | .hubs move => move
  | .sit hub document _ => .join hub document
  | .visit _ hub document => .join hub document
  | .quit _ hub document => .join hub document

/-! ## Effects -/

section

variable [Lease.Store S] [Medium B Fault Ask Answer] {foyer : Foyer S B Ask Answer}

omit [Lease.Store S] [Medium B Fault Ask Answer] in
theorem ending?_of_plain {hubs : Hubs S B Ask Answer} {id : JobId} {moment : Lock.Moment}
    {job : Job Ask Answer} (found : hubs.jobs.get? id = some job) (unopened : job.opened = none) :
    hubs.ending? (.step id moment : Hubs.Move B Fault) = none := by
  apply Hubs.ending?_step_eq_none
  intro job' call' next' operation ending found' rest' isOpen
  rw [found] at found'
  cases found'
  rw [unopened] at isOpen
  cases isOpen

/-- A job that does something in a room gets an answer, or still waits for it. -/
theorem effect_attend {id : JobId} {home : HubId} {document : DocumentId} {call : Hub.Call}
    {act : Roster → RoomId → Nat → Nat × Roster} {next : call.Answer → Hub.Handling}
    (found : foyer.hubs.jobs.get? id = some ⟨home, .ask call next, none⟩)
    (plain : ∀ document task, call ≠ .section document task) (counts : call.Answer = Nat)
    (moment : Lock.Moment) :
    foyer.hubs.Effect (.step id moment : Hubs.Move B Fault)
      (foyer.attend id home document act fun answer => next (counts ▸ answer)).hubs := by
  have silent : foyer.hubs.ending? (.step id moment : Hubs.Move B Fault) = none :=
    ending?_of_plain found rfl
  have nothing : foyer.hubs.Effect (.step id moment : Hubs.Move B Fault) foyer.hubs :=
    .quiet rfl silent ⟨rfl, rfl⟩ rfl rfl (fun _ => rfl) rfl
  unfold attend
  split
  · exact nothing
  · next hub hubFound =>
      split
      · next room visiting =>
          exact .replied found rfl plain ⟨rfl, rfl⟩ rfl rfl
            (Hubs.core_setHub hubFound rfl rfl rfl) (Hubs.get?_setJob id · _) silent
      · split
        · exact nothing
        · exact .replied found rfl plain ⟨rfl, rfl⟩ rfl rfl (fun _ => rfl)
            (Hubs.get?_setJob id · _) silent

/-- Whatever happens at a foyer is one of the things that can happen at its hubs. -/
theorem effect_after (move : Move B Fault) :
    foyer.hubs.Effect move.atHubs (foyer.after move).hubs := by
  have nothing : ∀ hub document, foyer.hubs.Effect (.join hub document : Hubs.Move B Fault)
      foyer.hubs :=
    fun hub document => .quiet rfl rfl ⟨rfl, rfl⟩ rfl rfl (fun _ => rfl) rfl
  cases move with
  | sit hub document session =>
      simp only [after, sit]
      split
      · exact nothing hub document
      · next room found =>
          have seats : foyer.hubs.Effect (.join hub document : Hubs.Move B Fault)
              (foyer.hubs.modifyRoster hub fun roster => roster.sit room session) := by
            apply Hubs.effect_modifyRoster
            · rfl
            · rfl
          exact seats
  | visit guest hub document =>
      simp only [after, visit]
      split
      · exact nothing hub document
      · exact nothing hub document
  | quit guest hub document => exact nothing hub document
  | hubs move =>
      cases move with
      | join hub document =>
          simp only [after, arrive]
          split
          · exact nothing hub document
          · next held found =>
              exact .quiet rfl rfl ⟨rfl, rfl⟩ rfl rfl (Hubs.core_setHub found rfl rfl rfl) rfl
      | step id moment =>
          simp only [after, step]
          split
          · next found => exact effect_attend found (by simp) rfl moment
          · next found => exact effect_attend found (by simp) rfl moment
          · exact Hubs.effect_after (.step id moment)
      | _ => exact Hubs.effect_after _

/-! ## Rosters -/

/-- What has to be so for a move to change the roster of a hub: nobody sits down but where
he was shown to, nobody gets up and nothing is passed on but by a job that has looked up
the room, and nothing else puts a frame into an outbox. -/
def Causes (foyer : Foyer S B Ask Answer) (move : Move B Fault) (hub : HubId) :
    Roster.Change → Prop
  | .entered document => move = .hubs (.join hub document)
  | .sat room session => ∃ document, move = .sit hub document session ∧
      foyer.visits.get? ⟨hub, document, .session session⟩ = some room
  | .parted document room session visitors => ∃ id moment next,
      move = .hubs (.step id moment) ∧
        foyer.hubs.jobs.get? id = some ⟨hub, .ask (.depart document session) next, none⟩ ∧
        foyer.visits.get? ⟨hub, document, .job id⟩ = some room ∧
        visitors = foyer.visitors hub room
  | .passed room sender frame => ∃ id moment document next,
      move = .hubs (.step id moment) ∧
        foyer.hubs.jobs.get? id = some ⟨hub, .ask (.broadcast document sender frame) next, none⟩ ∧
        foyer.visits.get? ⟨hub, document, .job id⟩ = some room
  | .announced _ _ _ => True
  | .outbox _ change => ∀ outbox, (change outbox).queue.Sublist outbox.queue

/-- What becomes of the roster of a hub with a move. -/
def Turns (foyer : Foyer S B Ask Answer) (move : Move B Fault) (after : Hubs S B Ask Answer)
    (hub : HubId) : Prop :=
  after.roster? hub = foyer.hubs.roster? hub ∨
    ∃ roster change, foyer.hubs.roster? hub = some roster ∧
      after.roster? hub = some (roster.changed change) ∧ foyer.Causes move hub change

omit [Lease.Store S] [Medium B Fault Ask Answer]

variable {hubs : Hubs S B Ask Answer} {move : Move B Fault}

theorem roster?_setHub {id : HubId} {hub : Hub} (other : HubId) :
    (hubs.setHub id hub).roster? other =
      if id = other then some hub.roster else hubs.roster? other := by
  unfold Hubs.setHub Hubs.roster?
  rw [Table.get?_insert]
  split
  · rfl
  · rfl

theorem roster?_of_found {id : HubId} {hub : Hub} (found : hubs.hubs.get? id = some hub) :
    hubs.roster? id = some hub.roster := by
  rw [Hubs.roster?, found, Option.map_some]

/-- One roster is changed, all others stay. -/
theorem turns_of_change {after : Hubs S B Ask Answer} {id : HubId} {roster : Roster}
    (found : foyer.hubs.roster? id = some roster) (change : Roster.Change)
    (causes : foyer.Causes move id change)
    (rosters : ∀ other, after.roster? other =
      if id = other then some (roster.changed change) else foyer.hubs.roster? other)
    (hub : HubId) : foyer.Turns move after hub := by
  unfold Turns
  rw [rosters]
  split
  · next same =>
      subst same
      exact .inr ⟨roster, change, found, rfl, causes⟩
  · exact .inl rfl

theorem turns_modifyRoster {id : HubId} {change : Roster → Roster} (kind : Roster.Change)
    (causes : foyer.Causes move id kind) (does : ∀ roster, change roster = roster.changed kind)
    (hub : HubId) : foyer.Turns move (foyer.hubs.modifyRoster id change) hub := by
  unfold Hubs.modifyRoster
  split
  · exact .inl rfl
  · next held found =>
      refine turns_of_change (roster?_of_found found) kind causes (fun other => ?_) hub
      rw [roster?_setHub, does]

/-- The step of a job with neither anything to pass on nor anybody to see off. -/
theorem turns_step {id : JobId} {moment : Lock.Moment}
    (passes : ∀ home document sender frame next,
      foyer.hubs.jobs.get? id ≠ some ⟨home, .ask (.broadcast document sender frame) next, none⟩)
    (stays : ∀ home document session next,
      foyer.hubs.jobs.get? id ≠ some ⟨home, .ask (.depart document session) next, none⟩)
    (hub : HubId) : foyer.Turns move (foyer.hubs.step id moment) hub := by
  have sections : ∀ {home : HubId} {held : Hub} {operation : OperationId}
      {body : Section Ask Answer (Option Bytes)} {job : Job Ask Answer}, job.hub = home →
      foyer.hubs.hubs.get? home = some held →
      foyer.Turns move (foyer.hubs.stepSection id job held operation body moment) hub := by
    rintro home held operation body job rfl found
    unfold Hubs.stepSection
    split
    · exact .inl rfl
    · split
      · exact .inl rfl
      · next call next =>
          left
          refine (roster?_setHub hub).trans ?_
          split
          · next same =>
              subst same
              rw [roster?_of_found found]
              cases call with
              | _ => rfl
          · rfl
      · exact .inl rfl
    · exact .inl rfl
    · split
      · exact .inl rfl
      · exact .inl rfl
  unfold Hubs.step
  split
  · exact .inl rfl
  · next job found =>
      split
      · next held call next hubFound rest unopened =>
          obtain ⟨home, work, opened⟩ := job
          cases rest
          cases unopened
          cases call with
          | «section» document task =>
              simp only [Hubs.answer]
              split
              · exact .inl rfl
              · exact .inl rfl
          | broadcast document sender frame => exact (passes _ _ _ _ _ found).elim
          | announce document session payload =>
              refine turns_of_change (roster?_of_found hubFound)
                (.announced document session payload) trivial (fun other => ?_) hub
              exact roster?_setHub other
          | presences document => exact .inl rfl
          | depart document session => exact (stays _ _ _ _ found).elim
          | isLoaded document => exact .inl rfl
      · next hubFound _ _ => exact sections rfl hubFound
      · exact .inl rfl

/-- A job that does something in a room does it to the roster of its hub. -/
theorem turns_attend {id : JobId} {home : HubId} {document : DocumentId}
    {act : Roster → RoomId → Nat → Nat × Roster} {next : Nat → Hub.Handling}
    (kind : RoomId → Nat → Roster.Change)
    (causes : ∀ room, foyer.visits.get? ⟨home, document, .job id⟩ = some room →
      foyer.Causes move home (kind room (foyer.visitors home room)))
    (does : ∀ roster room visitors, (act roster room visitors).2 =
      roster.changed (kind room visitors)) (hub : HubId) :
    foyer.Turns move (foyer.attend id home document act next).hubs hub := by
  unfold attend
  split
  · exact .inl rfl
  · next held found =>
      split
      · next room visiting =>
          refine turns_of_change (roster?_of_found found) _ (causes room visiting)
            (fun other => ?_) hub
          refine (roster?_setHub other).trans ?_
          rw [does]
      · split
        · exact .inl rfl
        · exact .inl rfl

variable (foyer) in
/-- Rosters change as they may. -/
theorem turns_after [Lease.Store S] [Medium B Fault Ask Answer] (move : Move B Fault)
    (hub : HubId) : foyer.Turns move (foyer.after move).hubs hub := by
  cases move with
  | sit id document session =>
      simp only [after, sit]
      split
      · exact .inl rfl
      · next room visiting =>
          exact turns_modifyRoster (.sat room session) ⟨document, rfl, visiting⟩
            (fun _ => rfl) hub
  | visit guest id document =>
      simp only [after, visit]
      split
      · exact .inl rfl
      · exact .inl rfl
  | quit guest id document => exact .inl rfl
  | hubs move =>
      cases move with
      | join id document =>
          simp only [after, arrive]
          split
          · exact .inl rfl
          · next held found =>
              exact turns_of_change (roster?_of_found found) (.entered document) rfl
                (fun other => roster?_setHub other) hub
      | step id moment =>
          simp only [after, step]
          split
          · next home document sender frame next found =>
              exact turns_attend (fun room _ => .passed room sender frame)
                (fun room visiting => ⟨id, moment, document, next, rfl, found, visiting⟩)
                (fun _ _ _ => rfl) hub
          · next home document session next found =>
              exact turns_attend
                (fun room visitors => .parted document room session visitors)
                (fun room visiting => ⟨id, moment, next, rfl, found, visiting, rfl⟩)
                (fun _ _ _ => rfl) hub
          · next passes stays =>
              exact turns_step
                (fun home document sender frame next =>
                  passes home document sender frame next)
                (fun home document session next => stays home document session next) hub
      | receive id session =>
          exact turns_modifyRoster (.outbox session fun outbox => outbox.drain.2)
            (fun _ => List.nil_sublist _) (fun _ => rfl) hub
      | close id session =>
          exact turns_modifyRoster (.outbox session Outbox.close)
            (fun _ => List.Sublist.refl _) (fun _ => rfl) hub
      | frame id document session bytes => exact .inl rfl
      | leave id document session => exact .inl rfl
      | perform id failure now =>
          left
          simp only [after, Hubs.after, Hubs.performCall]
          split
          · rfl
          · rfl
      | resume id moment =>
          left
          simp only [after, Hubs.after, Hubs.resume]
          split
          · rfl
          · rfl
      | consult id failure =>
          left
          simp only [after, Hubs.after, Hubs.consult]
          split
          · split
            · rfl
            · rfl
          · rfl
      | drift medium => exact .inl rfl

end

/-! ## Alone -/

section

variable {foyer : Foyer S B Ask Answer}

/-- Who joins with nobody in between has joined as at hubs. -/
theorem join_alone {id : HubId} {document : DocumentId} {hub : Hub}
    (found : foyer.hubs.hubs.get? id = some hub) :
    ((foyer.arrive id document).sit id document (hub.roster.enter document).1.1).hubs.roster? id =
      (foyer.hubs.join id document).2.roster? id := by
  have arrived : foyer.arrive id document =
      { hubs := foyer.hubs.setHub id { hub with roster := (hub.roster.enter document).2 }
        visits := foyer.visits.insert ⟨id, document, .session (hub.roster.enter document).1.1⟩
          (hub.roster.enter document).1.2 } := by
    simp only [arrive, found]
  rw [arrived]
  simp only [sit, Table.get?_insert_self, Hubs.modifyRoster, Hubs.setHub, Hubs.join, found,
    Hubs.roster?, Option.map_some]
  rfl

/-- A job that is alone with what it has to do in a room does it as at hubs. -/
theorem step_alone (alone : foyer.visits = .empty) {id : JobId} {home : HubId} {hub : Hub}
    {document : DocumentId} {session : SessionId} {frame : Frame} {next : Nat → Hub.Handling}
    (found : foyer.hubs.hubs.get? home = some hub) (moment : Lock.Moment) :
    (foyer.hubs.jobs.get? id = some ⟨home, .ask (.broadcast document session frame) next, none⟩ →
      hub.roster.room? document ≠ none →
      ((foyer.step id moment).step id moment).hubs = foyer.hubs.step id moment) ∧
    (foyer.hubs.jobs.get? id = some ⟨home, .ask (.depart document session) next, none⟩ →
      hub.roster.room? document ≠ none →
      ((foyer.step id moment).step id moment).hubs = foyer.hubs.step id moment) := by
  constructor
  · intro job present
    cases here : hub.roster.room? document with
    | none => exact absurd here present
    | some room =>
        have looked : foyer.step id moment =
            { foyer with visits := foyer.visits.insert ⟨home, document, .job id⟩ room } := by
          simp only [step, job, attend, found, alone, Table.get?_empty, here]
        rw [looked]
        simp only [step, job, attend, found, Table.get?_insert_self, Hubs.step, Hubs.answer,
          Roster.broadcast_eq, here]
  · intro job present
    cases here : hub.roster.room? document with
    | none => exact absurd here present
    | some room =>
        have looked : foyer.step id moment =
            { foyer with visits := foyer.visits.insert ⟨home, document, .job id⟩ room } := by
          simp only [step, job, attend, found, alone, Table.get?_empty, here]
        have two : visitors { foyer with
            visits := foyer.visits.insert ⟨home, document, .job id⟩ room } home room = 2 := by
          simp [visitors, alone, Table.insert, Table.empty, Table.put]
        rw [looked]
        simp only [step, job, attend, found, Table.get?_insert_self, Hubs.step, Hubs.answer,
          Roster.leave_eq, here, two]

end

end Foyer

end Coedit
