import Coedit.Lease.Backend
import Coedit.Table

/-!
# A lease store with troubles

A lease store that fails, refuses or pretends on demand, loses entries behind their
owners' backs, and keeps an account of the calls made to it.
-/

namespace Coedit.Rehearsal

/-- The methods of a lease store. -/
inductive Method where
  | claim
  | revoke
  | check
  | timeLeft
  deriving DecidableEq, Repr

def Method.of : Lease.Call → Method
  | .claim _ _ _ => .claim
  | .revoke _ _ => .revoke
  | .check _ => .check

/-- A failure for the coming calls of a method, for all of them if there is no
limit. -/
structure Fault where
  error : StoreError
  left : Option Nat
  deriving DecidableEq, Repr

/-- What is known of one call. -/
structure Account where
  method : Method
  key : String
  /-- The number of the token the call named. -/
  token : Option Nat
  /-- The answer, none after a failure.  A remaining time counts as yes. -/
  result : Option Bool
  /-- What the virtual clock showed. -/
  moment : Instant
  deriving DecidableEq, Repr

structure Troubled where
  inner : Lease.Backend
  faults : Table Method Fault
  /-- How many coming claims of a key are refused. -/
  busy : Table String Nat
  /-- How many coming looks at a key find it held. -/
  seemHeld : Table String Nat
  /-- The tokens in the order in which they were first named. -/
  tokens : List String
  /-- Who entered a lease last under each key. -/
  owners : Table String String
  /-- The calls of which no account was given yet, latest first. -/
  calls : List Account
  /-- What the virtual clock shows. -/
  clock : Instant

namespace Troubled

/-- A store without troubles. -/
def calm (inner : Lease.Backend) : Troubled :=
  ⟨inner, .empty, .empty, .empty, [], .empty, [], ⟨0⟩⟩

/-- Use up one of the calls a table counts for a key: was there one? -/
def countDown (table : Table String Nat) (key : String) : Bool × Table String Nat :=
  match table.get? key with
  | some (left + 1) => (true, table.insert key left)
  | _ => (false, table)

/-- The failure of a call, if it has to fail. -/
def strike (store : Troubled) (method : Method) : Option StoreError × Troubled :=
  match store.faults.get? method with
  | none => (none, store)
  | some ⟨error, none⟩ => (some error, store)
  | some ⟨_, some 0⟩ => (none, store)
  | some ⟨error, some (left + 1)⟩ =>
      (some error, { store with faults := store.faults.insert method ⟨error, some left⟩ })

/-- The number of a token, which is numbered now if it is new. -/
def numberOf (store : Troubled) (token : String) : Nat × Troubled :=
  if store.tokens.contains token then (store.tokens.idxOf token + 1, store)
  else (store.tokens.length + 1, { store with tokens := store.tokens ++ [token] })

def note (store : Troubled) (method : Method) (key : String) (token : Option Nat)
    (result : Option Bool) : Troubled :=
  { store with calls := ⟨method, key, token, result, store.clock⟩ :: store.calls }

/-- Answer a call that does not fail. -/
def serve (store : Troubled) (now : Instant) (call : Lease.Call) : Lease.Reply × Troubled :=
  let (reply, inner) := Lease.Store.call store.inner now call
  let after := { store with inner := inner }
  match call, reply with
  | .claim key token _, .ok true =>
      (reply, { after with owners := after.owners.insert key token })
  | _, _ => (reply, after)

/-- Answer a call that may be refused or told what is not so. -/
def pretend (store : Troubled) (now : Instant) (call : Lease.Call) : Lease.Reply × Troubled :=
  match call with
  | .claim key _ _ =>
      let (refused, busy) := countDown store.busy key
      if refused then (.ok false, { store with busy := busy }) else store.serve now call
  | .check key =>
      let (held, seemHeld) := countDown store.seemHeld key
      if held then (.ok true, { store with seemHeld := seemHeld }) else store.serve now call
  | .revoke _ _ => store.serve now call

/-- Answer a call and note it. -/
def call (store : Troubled) (now : Instant) (call : Lease.Call) : Lease.Reply × Troubled :=
  let (number, store) : Option Nat × Troubled :=
    match call.token? with
    | some token =>
        let (number, store) := store.numberOf token
        (some number, store)
    | none => (none, store)
  let (error, store) := store.strike (.of call)
  let (reply, store) : Lease.Reply × Troubled :=
    match error with
    | some error => (.error error, store)
    | none => store.pretend now call
  (reply, store.note (.of call) call.key number reply.toOption)

/-- Tell the time a lease has left, and note it. -/
def timeLeft (store : Troubled) (now : Instant) (key : String) :
    Except StoreError (Option Duration) × Troubled :=
  let (error, store) := store.strike .timeLeft
  match error with
  | some error => (.error error, store.note .timeLeft key none none)
  | none =>
      let (left, inner) := Lease.Store.timeLeft store.inner now key
      (left, note { store with inner := inner } .timeLeft key none
        (left.toOption.map Option.isSome))

instance : Lease.Store Troubled where
  name store := Lease.Store.name store.inner
  call := call
  timeLeft := timeLeft

/-- Remove a live lease behind its owner's back: was there one? -/
def expire (store : Troubled) (now : Instant) (key : String) : Bool × Troubled :=
  match store.owners.get? key with
  | none => (false, store)
  | some owner =>
      let (reply, inner) := Lease.Store.call store.inner now (.revoke key owner)
      (reply.toOption.getD false, { store with inner := inner })

/-- Replace a lease by a stranger's: was there one? -/
def steal (store : Troubled) (now : Instant) (key : String) : Bool × Troubled :=
  let (removed, store) := store.expire now key
  (removed, (store.serve now (.claim key "thief" (.ofSecs 30))).2)

/-- The account of the calls since the last one, in order. -/
def account (store : Troubled) : List Account × Troubled :=
  (store.calls.reverse, { store with calls := [] })

/-- The times between consecutive calls. -/
def gaps (accounts : List Account) : List Duration :=
  (accounts.zip (accounts.drop 1)).map fun (earlier, later) => later.moment.since earlier.moment

end Troubled

end Coedit.Rehearsal
