import Coedit.Proofs.Lease.Contract
import Coedit.Proofs.Site.Holding
import Mathlib.Logic.Function.Basic
import Mathlib.Logic.Relation

/-!
# Cloakrooms

A cloakroom is a number of lockers that share a store, with whatever is done through them:
locks are acquired, holds are given back by anybody, late and more than once, and lockers
give back all they hold.  A call takes effect at one time and its answer arrives at another.
Calls fail, leases end, and strangers work on the store, too.
-/

namespace Coedit.Lock

open Lease

/-! ## Seeking a token's key -/

/-- The token under which the key is still being claimed. -/
def Phase.sought? : Phase → Option String
  | .taking attempt => some attempt.token
  | .retrying _ attempt => some attempt.token
  | _ => none

namespace Acquisition

variable {acquisition : Acquisition} {call : Call} {reply : Reply} {token : String}
  {moment : Moment}

/-- A token goes on being claimed only after a refusal. -/
theorem sought?_answered (need : acquisition.need? = some (.call call))
    (sought : (acquisition.answered reply moment).phase.sought? = some token) :
    acquisition.phase.sought? = some token ∧ reply = .ok false := by
  cases phase : acquisition.phase <;> simp only [need?, phase] at need <;>
    simp only [answered, phase] at sought
  case taking attempt =>
      cases next : attempt.next reply moment with
      | taken =>
          rw [next] at sought
          cases guard : acquisition.guard with
          | unguarded => simp [taken, guard, Phase.sought?] at sought
          | unlessHeld blocker => simp [taken, guard, Phase.sought?] at sought
          | untilFree keys => cases keys <;> simp [taken, guard, Watch.start?, Phase.sought?] at sought
      | again pause again =>
          rw [next] at sought
          cases sought
          unfold Attempt.next at next
          repeat' split at next
          all_goals cases next
          exact ⟨rfl, rfl⟩
      | failed failure =>
          rw [next] at sought
          cases guard : acquisition.guard <;> simp [guard, Phase.sought?] at sought
  case checking => split at sought <;> cases sought
  case yielding => split at sought <;> cases sought
  case watching => split at sought <;> cases sought
  case retreating => split at sought <;> cases sought
  all_goals cases need

/-- After a pause a token goes on being claimed, or a new one is. -/
theorem sought?_rested (sought : (acquisition.rested moment).phase.sought? = some token) :
    acquisition.phase.sought? = some token ∨ token = moment.token := by
  cases phase : acquisition.phase <;> simp only [rested, phase] at sought
  case resting =>
      cases sought
      exact .inr rfl
  case retrying pause attempt => exact .inl sought
  case taking attempt => exact .inl (phase ▸ sought)
  case lingering => cases sought
  all_goals exact .inl (phase ▸ sought)

theorem sought?_of_claim {key : String} {ttl : Duration}
    (need : acquisition.need? = some (.call (.claim key token ttl))) :
    acquisition.phase.sought? = some token := by
  cases phase : acquisition.phase <;> simp only [need?, phase] at need <;> cases need
  rfl

/-- Whoever holds the key after an answer held it before, or has just been granted it. -/
theorem holds?_some (sound : acquisition.Sound)
    (holds : acquisition.phase.holds? (some reply) = some token) :
    acquisition.phase.holds? none = some token ∨
      reply = .ok true ∧ ∃ ttl, acquisition.need? = some (.call (.claim acquisition.key token ttl)) := by
  cases phase : acquisition.phase <;> simp only [phase, Phase.holds?] at holds
  case taking attempt =>
      have own : attempt.key = acquisition.key := by simpa [Sound, phase] using sound
      split at holds
      · next granted =>
          cases granted
          cases holds
          exact .inr ⟨rfl, attempt.ttl, by simp [need?, phase, Attempt.call, own]⟩
      · cases holds
  case checking => exact .inl holds
  case watching => exact .inl holds
  case lingering => exact .inl holds
  case acquired => exact .inl holds
  all_goals cases holds

end Acquisition

/-! ## Clients -/

/-- What the answer to giving something back comes to: a failure counts as no. -/
def removes : Reply → Bool
  | .ok removed => removed
  | .error _ => false

/-- What somebody does through a locker. -/
inductive Chore where
  | acquiring (acquisition : Acquisition)
  /-- A hold is being given back. -/
  | releasing (hold : Hold)
  /-- A hold was given back: was its lease still there? -/
  | released (hold : Hold) (removed : Bool)
  /-- All that was held is being given back: these calls are left, and so many of the
  others have removed a lease. -/
  | sweeping (left : List Call) (removed : Nat)

namespace Chore

/-- The call to make. -/
def call? : Chore → Option Call
  | .acquiring acquisition =>
      match acquisition.need? with
      | some (.call call) => some call
      | _ => none
  | .releasing hold => some (.revoke hold.key hold.token)
  | .released _ _ => none
  | .sweeping left _ => left.head?

/-- Go on after the answer. -/
def answered (chore : Chore) (reply : Reply) (moment : Moment) : Chore :=
  match chore with
  | .acquiring acquisition => .acquiring (acquisition.answered reply moment)
  | .releasing hold => .released hold (removes reply)
  | .released hold removed => .released hold removed
  | .sweeping left removed =>
      .sweeping left.tail (if removes reply then removed + 1 else removed)

theorem call?_acquiring {acquisition : Acquisition} {call : Call} :
    (acquiring acquisition).call? = some call ↔ acquisition.need? = some (.call call) := by
  rw [call?]
  cases acquisition.need? with
  | none => simp
  | some need => cases need <;> simp

end Chore

/-- Somebody who does something through a locker. -/
structure Client where
  locker : LockerId
  chore : Chore
  /-- The store has answered the call that is to be made; the answer has yet to arrive. -/
  reply : Option Reply

namespace Client

/-- The token under which a key is still being claimed. -/
def sought? (client : Client) : Option String :=
  match client.chore with
  | .acquiring acquisition => acquisition.phase.sought?
  | _ => none

/-- The token of the lease that was removed when a hold was given back. -/
def removed? (client : Client) : Option String :=
  match client.chore, client.reply with
  | .releasing hold, some (.ok true) => some hold.token
  | .released hold true, _ => some hold.token
  | _, _ => none

/-- Whether a lock is still being acquired. -/
def seeks (client : Client) : Bool :=
  match client.chore with
  | .acquiring acquisition => acquisition.result?.isNone
  | _ => false

end Client

/-! ## Cloakrooms -/

/-- Which client of a cloakroom. -/
abbrev ClientId := Nat

structure Cloakroom (S : Type) where
  now : Instant
  lockers : Lockers S
  clients : ClientId → Option Client
  /-- The holds that lockers have issued, latest first. -/
  issued : List (LockerId × Hold)
  /-- The tokens whose revocation was answered to a locker, latest first. -/
  settled : List (LockerId × String)
  /-- The tokens that were drawn for acquisitions. -/
  drawn : List String
  /-- The tokens of strangers. -/
  foreign : List String

/-- The hold that an answered call makes a locker issue. -/
def issues? (now : Instant) (call : Call) (reply : Reply) : Option Hold :=
  match call, reply with
  | .claim key token ttl, .ok true => some ⟨key, token, now, ttl⟩
  | _, _ => none

/-- The token that an answered call settles: it is given back, or was not there. -/
def settles? (call : Call) (reply : Reply) : Option String :=
  match call, reply with
  | .revoke _ token, .ok _ => some token
  | _, _ => none

namespace Cloakroom

variable {S : Type} [Store S]

/-- The cloakroom with another client at a number. -/
def seat (room : Cloakroom S) (id : ClientId) (client : Client) : Cloakroom S :=
  { room with clients := Function.update room.clients id (some client) }

/-- The answer to a call that may fail, and the store afterwards. -/
def attempt (room : Cloakroom S) (failure : Option StoreError) (call : Call) : Reply × S :=
  match failure with
  | some error => (.error error, room.lockers.store)
  | none => Store.call room.lockers.store room.now call

/-- What was answered the store has answered. -/
theorem call_of_attempt {room : Cloakroom S} {failure : Option StoreError} {call : Call}
    {value : Bool} (answered : (room.attempt failure call).1 = .ok value) :
    Store.call room.lockers.store room.now call = (.ok value, (room.attempt failure call).2) := by
  cases failure with
  | some error => cases answered
  | none => exact Prod.ext answered rfl

/-- The call of a client takes effect, or fails without effect. -/
def perform (room : Cloakroom S) (id : ClientId) (client : Client) (failure : Option StoreError)
    (call : Call) : Cloakroom S :=
  let (reply, store) := room.attempt failure call
  { room with
    lockers := { room.lockers with store := store }
    clients := Function.update room.clients id (some { client with reply := some reply }) }

/-- The answer to the call of a client arrives: its locker keeps track of it, and the
client goes on. -/
def tell (room : Cloakroom S) (id : ClientId) (client : Client) (call : Call) (reply : Reply)
    (moment : Moment) : Cloakroom S :=
  { room with
    lockers := { room.lockers with
      members := room.lockers.members.modify client.locker (·.record call reply) }
    clients := Function.update room.clients id
      (some ⟨client.locker, client.chore.answered reply moment, none⟩)
    issued := (issues? room.now call reply).toList.map (client.locker, ·) ++ room.issued
    settled := (settles? call reply).toList.map (client.locker, ·) ++ room.settled }

/-- The call of a client takes effect, and its answer arrives at once. -/
def exchange (room : Cloakroom S) (id : ClientId) (client : Client) (failure : Option StoreError)
    (call : Call) (moment : Moment) : Cloakroom S :=
  (room.perform id client failure call).tell id client call (room.attempt failure call).1 moment

theorem lockers_exchange (room : Cloakroom S) (id : ClientId) (client : Client)
    (failure : Option StoreError) (call : Call) (moment : Moment) :
    (room.exchange id client failure call moment).lockers =
      (room.lockers.call client.locker failure room.now call).2 := by
  cases failure <;> rfl

/-- A release is a call that is answered at once. -/
theorem release_eq (room : Cloakroom S) (id : ClientId) (member : LockerId) (hold : Hold)
    (failure : Option StoreError) (moment : Moment) :
    let call := Call.revoke hold.key hold.token
    room.lockers.release member failure room.now hold =
      (removes (room.attempt failure call).1,
        (room.exchange id ⟨member, .releasing hold, none⟩ failure call moment).lockers) := by
  dsimp only
  rw [lockers_exchange, Lockers.release]
  cases failure with
  | some error => rfl
  | none =>
      simp only [Lockers.call, attempt]
      cases (Store.call room.lockers.store room.now (.revoke hold.key hold.token)).1 <;> rfl

/-- An acquisition that is carried on makes a call that is answered at once. -/
theorem carryOn_eq (room : Cloakroom S) (id : ClientId) (member : LockerId)
    {acquisition : Acquisition} (failure : Option StoreError) {call : Call}
    (need : acquisition.need? = some (.call call)) (moment : Moment) :
    room.lockers.carryOn member acquisition failure room.now moment =
      (acquisition.answered (room.attempt failure call).1 moment,
        (room.exchange id ⟨member, .acquiring acquisition, none⟩ failure call moment).lockers) := by
  rw [lockers_exchange, Lockers.carryOn, need]
  cases failure <;> rfl

variable [Lawful S]

/-- The lease at a key, whether it has ended or not. -/
def lease? (room : Cloakroom S) (key : String) : Option Entry :=
  Lawful.lease? room.lockers.store key

/-- Whether strangers can have made one store of another: they remove leases, make them end
earlier, and enter leases of their own. -/
def Meddles (room : Cloakroom S) (store : S) (tokens : List String) : Prop :=
  ∀ key lease, Lawful.lease? store key = some lease →
    lease.token ∈ tokens ∨
      ∃ old, room.lease? key = some old ∧ old.token = lease.token ∧ lease.ends ≤ old.ends

/-- What can happen in a cloakroom. -/
inductive Step (room : Cloakroom S) : Cloakroom S → Prop where
  /-- Somebody begins to acquire a lock, under a token that nobody has. -/
  | acquire {id : ClientId} {member : LockerId} {locker : Locker} (key : String) (guard : Guard)
      (maxWait : Duration) {moment : Moment} (free : room.clients id = none)
      (found : room.lockers.members.get? member = some locker)
      (unused : moment.token ∉ room.drawn ∧ moment.token ∉ room.foreign) :
      Step room { room.seat id
          ⟨member, .acquiring (.start key guard locker.settings maxWait moment), none⟩ with
        drawn := moment.token :: room.drawn }
  /-- Somebody begins to give a hold back, whoever has issued it. -/
  | release {id : ClientId} (member : LockerId) {owner : LockerId} {hold : Hold}
      (free : room.clients id = none) (issued : (owner, hold) ∈ room.issued) :
      Step room (room.seat id ⟨member, .releasing hold, none⟩)
  /-- A locker begins to give back all it holds. -/
  | releaseAll {id : ClientId} {member : LockerId} {locker : Locker}
      (free : room.clients id = none)
      (found : room.lockers.members.get? member = some locker) :
      Step room (room.seat id ⟨member, .sweeping locker.revocations 0, none⟩)
  | perform {id : ClientId} {client : Client} {call : Call} (failure : Option StoreError)
      (found : room.clients id = some client) (calls : client.chore.call? = some call)
      (waiting : client.reply = none) : Step room (room.perform id client failure call)
  | tell {id : ClientId} {client : Client} {call : Call} {reply : Reply} (moment : Moment)
      (found : room.clients id = some client) (calls : client.chore.call? = some call)
      (answered : client.reply = some reply) :
      Step room (room.tell id client call reply moment)
  /-- A pause is over. -/
  | rest {id : ClientId} {member : LockerId} {acquisition : Acquisition} {pause : Duration}
      {moment : Moment} (found : room.clients id = some ⟨member, .acquiring acquisition, none⟩)
      (need : acquisition.need? = some (.pause pause))
      (unused : moment.token ∉ room.drawn ∧ moment.token ∉ room.foreign) :
      Step room { room.seat id ⟨member, .acquiring (acquisition.rested moment), none⟩ with
        drawn := moment.token :: room.drawn }
  /-- Time goes by. -/
  | tick {later : Instant} (onward : room.now ≤ later) : Step room { room with now := later }
  /-- Strangers work on the store. -/
  | meddle {store : S} {tokens : List String} (apart : ∀ token ∈ tokens, token ∉ room.drawn)
      (meddles : room.Meddles store tokens) :
      Step room { room with
        lockers := { room.lockers with store := store }
        foreign := tokens ++ room.foreign }

/-- Whether nothing has been done through any locker, and whatever leases there are belong to
strangers. -/
structure IsOpened (room : Cloakroom S) : Prop where
  clients : ∀ id, room.clients id = none
  issued : room.issued = []
  settled : room.settled = []
  drawn : room.drawn = []
  held : ∀ id locker, room.lockers.members.get? id = some locker → locker.held = .empty
  foreign : ∀ key lease, room.lease? key = some lease → lease.token ∈ room.foreign

/-- Any number of steps. -/
def Leads (room after : Cloakroom S) : Prop := Relation.ReflTransGen Step room after

variable {start room after : Cloakroom S} {id : ClientId} {client : Client} {call : Call}

theorem Leads.step (leads : start.Leads room) (step : Step room after) : start.Leads after :=
  leads.tail step

theorem Leads.exchange (leads : start.Leads room) (found : room.clients id = some client)
    (calls : client.chore.call? = some call) (waiting : client.reply = none)
    (failure : Option StoreError) (moment : Moment) :
    start.Leads (room.exchange id client failure call moment) := by
  have performed := leads.step (.perform failure found calls waiting)
  have answered : (room.perform id client failure call).clients id =
      some { client with reply := some (room.attempt failure call).1 } := Function.update_self ..
  have told := Step.tell moment answered calls rfl
  exact performed.step told

end Cloakroom

end Coedit.Lock
