import Coedit.Proofs.Operation.Hygiene
import Coedit.Proofs.Site.Bodies

/-!
# The calls of an operation at a site

An operation at a site goes through a life as it would alone.  The calls that took effect
for it are those of this life, and the one that has yet to be answered.
-/

namespace Coedit

open Lease

namespace Lock.Lockers

variable {S : Type} [Store S] [Lawful S] {own : String → Prop} {origin lockers after : Lockers S}
  {now later : Instant} {log : List (Call × Reply)}

/-- Whether the lockers have become what they are with these calls by some time. -/
def ServedBy (id : LockerId) (own : String → Prop) (origin : Lockers S) (now : Instant)
    (log : List (Call × Reply)) (lockers : Lockers S) : Prop :=
  ∃ since, since ≤ now ∧ origin.Served id own since log lockers

/-- Whether nothing is left of tokens that nobody had before, unless an attempt to give
something back failed. -/
def Settled (own : String → Prop) (origin : Lockers S) (now : Instant)
    (log : List (Call × Reply)) (lockers : Lockers S) : Prop :=
  Returns log → ∀ token, own token → origin.Free token →
    (∀ service, ¬ lockers.Keeps service token) ∧
      ∀ key lease, Lawful.lease? lockers.store key = some lease → lease.token = token →
        lease.hasEnded now = true

theorem ServedBy.mono {id : LockerId} (served : origin.ServedBy id own now log lockers)
    (onward : now ≤ later) : origin.ServedBy id own later log lockers := by
  obtain ⟨since, before, served⟩ := served
  exact ⟨since, Nat.le_trans before onward, served⟩

theorem ServedBy.called {id : LockerId} (served : origin.ServedBy id own now log lockers)
    (failure : Option StoreError) (onward : now ≤ later) (call : Call) :
    origin.ServedBy id own later ((call, (lockers.call id failure later call).1) :: log)
      (lockers.call id failure later call).2 := by
  obtain ⟨since, before, served⟩ := served
  exact ⟨later, Nat.le_refl _, served.called failure later call (Nat.le_trans before onward)⟩

theorem ServedBy.others {id : LockerId} (served : origin.ServedBy id own now log lockers)
    (bars : ∀ token, own token → lockers.Bars after token) :
    origin.ServedBy id own now log after := by
  obtain ⟨since, before, served⟩ := served
  exact ⟨since, before, served.others bars⟩

theorem Settled.onward (settled : origin.Settled own now log lockers) (onward : now ≤ later)
    (bars : ∀ token, own token → lockers.Bars after token) :
    origin.Settled own later log after := by
  intro returns token mine free
  obtain ⟨forgotten, ended⟩ := settled returns token mine free
  refine ⟨fun service keeps => forgotten service ((bars token mine).keeps keeps), ?_⟩
  intro key lease found same
  exact Entry.hasEnded_mono (ended key lease ((bars token mine).lease found same) same) onward

/-- Nothing is left of somebody who has called nobody. -/
theorem settled_of_uncalled (served : ∀ id, origin.ServedBy id own now [] lockers) :
    origin.Settled own now [] lockers := by
  intro returns token mine free
  have gone : ∀ id, (∀ key lease, Lawful.lease? lockers.store key = some lease →
      lease.token = token → lease.hasEnded now = true) ∧ ¬ lockers.Keeps id token := by
    intro id
    obtain ⟨since, before, served⟩ := served id
    have accounts : lockers.Accounts id "" since [] token := served.accounts nofun mine free
    obtain ⟨ended, forgotten⟩ := accounts.gone returns nofun
    exact ⟨fun key lease found same => Entry.hasEnded_mono (ended key lease found same) before,
      forgotten⟩
  exact ⟨fun service => (gone service).2, (gone 0).1⟩

end Lock.Lockers

namespace Site.Entry

variable {α ε : Type} {entry : Entry α ε} {plan : Plan} {log : List (Call × Reply)}

/-- Whether an operation has come from its plan to where it is by these calls, latest
first. -/
inductive Records (entry : Entry α ε) (plan : Plan) : List (Call × Reply) → Prop where
  | told {settings : Lock.Settings} {maxWait : Duration}
      {path : List (Operation.Ticket α ε × Operation.Event α ε)} {ticket : Operation.Ticket α ε}
      (life : Operation.Life (.create plan settings maxWait) path ticket)
      (same : ticket.operation = entry.operation) (unanswered : entry.reply = none) :
      Records entry plan (Operation.calls path)
  /-- The last answer is on its way. -/
  | untold {settings : Lock.Settings} {maxWait : Duration}
      {path : List (Operation.Ticket α ε × Operation.Event α ε)} {ticket : Operation.Ticket α ε}
      {call : Call} {reply : Reply}
      (life : Operation.Life (.create plan settings maxWait) path ticket)
      (same : ticket.operation = entry.operation)
      (need : entry.operation.need? = some (.lock (.call call)))
      (answered : entry.reply = some reply) :
      Records entry plan ((call, reply) :: Operation.calls path)

theorem records_create (service : ServiceId) (plan : Plan) (settings : Lock.Settings)
    (maxWait : Duration) :
    (⟨service, .create plan settings maxWait, none⟩ : Entry α ε).Records plan [] :=
  .told .start rfl rfl

namespace Records

/-- A call takes effect. -/
theorem performed (records : entry.Records plan log) {call : Call}
    (need : entry.operation.need? = some (.lock (.call call))) (unanswered : entry.reply = none)
    (reply : Reply) : ({ entry with reply := some reply } : Entry α ε).Records plan
      ((call, reply) :: log) := by
  cases records with
  | told life same => exact .untold life same need rfl
  | untold life same need answered =>
      rw [unanswered] at answered
      cases answered

/-- One more event, and the call that was made with it. -/
theorem event {settings : Lock.Settings} {maxWait : Duration}
    {path : List (Operation.Ticket α ε × Operation.Event α ε)} {ticket : Operation.Ticket α ε}
    {event : Operation.Event α ε}
    (life : Operation.Life (.create plan settings maxWait) path ticket)
    (permitted : ticket.Permits event) (service : ServiceId) :
    (⟨service, (ticket.after event).operation, none⟩ : Entry α ε).Records plan
      (event.call?.toList ++ Operation.calls path) := by
  rw [← Operation.calls_cons (ticket, event) path]
  exact .told (life.event permitted) rfl rfl

/-- The operation goes on. -/
theorem resumed (records : entry.Records plan log) (moment : Lock.Moment) :
    (entry.resumed moment).Records plan log := by
  obtain ⟨service, operation, reply⟩ := entry
  unfold Entry.resumed
  split
  · next need =>
      cases records with
      | told life same unanswered =>
          subst same
          have begins : Operation.Ticket.Permits _ (.begun moment) := need
          exact event life begins service
      | untold life same needs => simp [need] at needs
  · next call reply need answered =>
      cases records with
      | told life same unanswered =>
          rw [unanswered] at answered
          cases answered
      | untold life same needs told =>
          cases need.symm.trans needs
          cases answered.symm.trans told
          subst same
          have answers : Operation.Ticket.Permits _ (.answered call reply moment) := need
          exact event life answers service
  · next pause need =>
      cases records with
      | told life same unanswered =>
          subst same
          have rests : Operation.Ticket.Permits _ (.rested moment) := ⟨pause, need⟩
          exact event life rests service
      | untold life same needs => simp [need] at needs
  · exact records

/-- The body has ended. -/
theorem bodyEnded (records : entry.Records plan log) (running : entry.IsRunning)
    (ending : Operation.Ending α ε) : (entry.bodyEnded ending).Records plan log := by
  have need := need?_of_running running
  obtain ⟨service, operation, reply⟩ := entry
  cases records with
  | told life same unanswered =>
      subst same
      cases unanswered
      have ends : Operation.Ticket.Permits _ (.ended ending) := need
      exact event life ends service
  | untold life same needs => simp [need] at needs

/-- Nothing is left of an operation that has ended. -/
theorem settled (records : entry.Records plan log) {result : Except (Operation.Failure ε) α}
    (ended : entry.operation.result? = some result) {S : Type} [Store S] [Lawful S]
    {id : Lock.LockerId} {own : String → Prop} {origin lockers : Lock.Lockers S} {now : Instant}
    (served : origin.ServedBy id own now log lockers) : origin.Settled own now log lockers := by
  intro returns token mine free
  obtain ⟨since, before, served⟩ := served
  cases records with
  | told life same unanswered =>
      obtain ⟨forgotten, past⟩ := life.gone_of_result (same ▸ ended) served returns mine free
      refine ⟨forgotten, ?_⟩
      intro key lease found same
      exact Entry.hasEnded_mono (past key lease found same) before
  | untold life same need answered =>
      have phase := Operation.finished_of_result ended
      simp [Operation.need?, phase] at need

end Records

end Site.Entry

end Coedit
