import Coedit.Proofs.Operation.Ledger

/-!
# What an operation leaves behind

An operation runs its body only under its lock, ends with a failure once the store has
failed it, and has given back all it was granted when it has a result.  If the store
answers every attempt to give something back, nothing of the operation is left in it,
whatever others do meanwhile.
-/

namespace Coedit

open Lease

theorem Lease.Entry.hasEnded_mono {lease : Lease.Entry} {now later : Instant}
    (ended : lease.hasEnded now = true) (onward : now ≤ later) : lease.hasEnded later = true := by
  simp only [hasEnded, decide_eq_true_eq, Instant.le_iff] at ended onward ⊢
  exact Nat.le_trans ended onward

namespace Lock.Lockers

variable {S : Type} [Store S] [Lawful S]

/-- What becomes of the lockers while calls are made on behalf of one of them, latest
first.  Others do what they like at any time, except that they come by no token of its
own. -/
inductive Served (id : LockerId) (own : String → Prop) (origin : Lockers S) :
    Instant → List (Call × Reply) → Lockers S → Prop where
  | start {now : Instant} : Served id own origin now [] origin
  | called {before : Instant} {log : List (Call × Reply)} {lockers : Lockers S}
      (served : Served id own origin before log lockers) (failure : Option StoreError)
      (now : Instant) (call : Call) (onward : before ≤ now) :
      Served id own origin now ((call, (lockers.call id failure now call).1) :: log)
        (lockers.call id failure now call).2
  | others {now : Instant} {log : List (Call × Reply)} {lockers after : Lockers S}
      (served : Served id own origin now log lockers)
      (bars : ∀ token, own token → lockers.Bars after token) :
      Served id own origin now log after

/-- Whether every attempt to give something back was answered. -/
def Returns (log : List (Call × Reply)) : Prop :=
  ∀ key token error, (.revoke key token, .error error) ∉ log

/-- Where the tokens of an operation are that claims one key only. -/
structure Accounts (lockers : Lockers S) (id : LockerId) (key : String) (now : Instant)
    (log : List (Call × Reply)) (token : String) : Prop where
  onlyAt : lockers.OnlyAt key id token
  gone (returns : Returns log) (clear : (key, token) ∉ Operation.owed log) :
    (∀ other lease, Lawful.lease? lockers.store other = some lease → lease.token = token →
      lease.hasEnded now = true) ∧ ¬ lockers.Keeps id token

variable {id : LockerId} {own : String → Prop} {origin lockers : Lockers S} {now : Instant}
  {log : List (Call × Reply)} {key token : String}

theorem Accounts.start (free : lockers.Free token) : lockers.Accounts id key now [] token :=
  ⟨⟨fun found same => absurd same (free.unleased found),
      fun {service} keeps => absurd keeps (free.forgotten service)⟩,
    fun _ _ => ⟨fun _ _ found same => absurd same (free.unleased found), free.forgotten id⟩⟩

/-- As long as nobody comes by a token and nothing new is owed, the accounts are right. -/
theorem Accounts.onward {before : Instant} {entries : List (Call × Reply)} {after : Lockers S}
    (accounts : lockers.Accounts id key before log token) (later : before ≤ now)
    (bars : lockers.Bars after token) (returns : Returns entries → Returns log)
    (clear : (key, token) ∉ Operation.owed entries → (key, token) ∉ Operation.owed log) :
    after.Accounts id key now entries token := by
  refine ⟨accounts.onlyAt.onward bars, fun answered without => ?_⟩
  obtain ⟨ended, forgotten⟩ := accounts.gone (returns answered) (clear without)
  exact ⟨fun other lease found same =>
    Entry.hasEnded_mono (ended other lease (bars.lease found same) same) later,
    fun keeps => forgotten (bars.keeps keeps)⟩

/-- A call changes what is owed, and where the tokens are, alike. -/
theorem Accounts.called {before : Instant} {failure : Option StoreError} {call : Call}
    (accounts : lockers.Accounts id key before log token) (later : before ≤ now)
    (keyed : ∀ other drawn ttl, call = .claim other drawn ttl → other = key) :
    (lockers.call id failure now call).2.Accounts id key now
      ((call, (lockers.call id failure now call).1) :: log) token := by
  have earlier : Returns ((call, (lockers.call id failure now call).1) :: log) → Returns log :=
    fun returns key token error member => returns key token error (List.mem_cons_of_mem _ member)
  have onlyAt : (lockers.call id failure now call).2.OnlyAt key id token := by
    constructor
    · intro other lease found same
      rcases call_origin rfl found with before | ⟨-, ttl, claimed⟩
      · exact accounts.onlyAt.lease before same
      · exact keyed other _ ttl claimed
    · intro other keeps
      rcases keeps_of_call keeps with before | ⟨same, -⟩
      · exact accounts.onlyAt.keeps before
      · exact same
  have bars : ((lockers.call id failure now call).1 = .ok true →
      ∀ key ttl, call ≠ .claim key token ttl) →
      lockers.Bars (lockers.call id failure now call).2 token := bars_of_call
  generalize answer : (lockers.call id failure now call).1 = reply at bars earlier ⊢
  cases call with
  | claim other drawn ttl =>
      obtain rfl := keyed other drawn ttl rfl
      by_cases granted : reply = .ok true
      · subst granted
        refine ⟨onlyAt, fun returns clear => ?_⟩
        obtain ⟨different, clear⟩ := not_or.mp (mt List.mem_cons.mpr clear)
        have away : lockers.Bars _ token := bars (by grind)
        exact (accounts.onward later away earlier fun _ => clear).gone returns (by
          simpa [Operation.owed] using ⟨fun same => different (by rw [same]), clear⟩)
      · exact accounts.onward later (bars fun same => absurd same granted) earlier
          (fun clear => by rwa [Operation.owed_refused granted] at clear)
  | revoke other drawn =>
      by_cases same : (other, drawn) = (key, token)
      · cases same
        refine ⟨onlyAt, fun returns _ => ?_⟩
        cases reply with
        | error error => exact absurd List.mem_cons_self (returns key token error)
        | ok value =>
            refine ⟨fun other lease found own => ?_, forgets_of_revoke answer⟩
            obtain rfl := onlyAt.lease found own
            exact ended_of_revoke answer found own
      · refine accounts.onward later (bars fun _ _ _ => Call.noConfusion) earlier
          fun clear owing => clear ?_
        exact (List.mem_erase_of_ne fun equal => same equal.symm).mpr owing
  | check other => exact accounts.onward later (bars fun _ _ _ => Call.noConfusion) earlier fun clear => clear

/-- The accounts of an operation stay right whatever is done for it and by others. -/
theorem Served.accounts (served : Served id own origin now log lockers)
    (keyed : ∀ other drawn ttl reply, (.claim other drawn ttl, reply) ∈ log → other = key)
    (mine : own token) (free : origin.Free token) : lockers.Accounts id key now log token := by
  induction served with
  | start => exact .start free
  | called served failure now call onward ih =>
      refine (ih fun other drawn ttl reply member => ?_).called onward ?_
      · exact keyed other drawn ttl reply (List.mem_cons_of_mem _ member)
      · rintro other drawn ttl rfl
        exact keyed other drawn ttl _ List.mem_cons_self
  | others served bars ih =>
      exact (ih keyed).onward (Nat.le_refl _) (bars token mine) (fun returns => returns)
        fun clear => clear

/-- Others make calls under tokens of their own. -/
theorem Served.foreign (served : Served id own origin now log lockers) (other : LockerId)
    (failure : Option StoreError) (moment : Instant) (call : Call)
    (away : ∀ token, own token → ∀ key ttl, call ≠ .claim key token ttl) :
    Served id own origin now log (lockers.call other failure moment call).2 :=
  served.others fun token mine => bars_of_call fun _ => away token mine

end Lock.Lockers

namespace Lock.Acquisition

variable {acquisition : Acquisition}

/-- What becomes of an attempt to give something back makes no difference. -/
theorem answered_of_revoke {key token : String}
    (need : acquisition.need? = some (.call (.revoke key token))) (reply other : Reply)
    (moment : Moment) : acquisition.answered reply moment = acquisition.answered other moment := by
  unfold need? at need
  unfold answered
  cases phase : acquisition.phase <;> simp only [phase] at need <;> cases need <;> rfl

end Lock.Acquisition

namespace Operation

variable {α ε : Type}

/-- The event without what became of an attempt to give something back. -/
def Event.blind : Event α ε → Event α ε
  | .answered (.revoke key token) _ moment => .answered (.revoke key token) (.ok true) moment
  | event => event

theorem answered_of_revoke {operation : Operation α ε} {key token : String}
    (need : operation.need? = some (.lock (.call (.revoke key token)))) (reply other : Reply)
    (moment : Lock.Moment) :
    operation.answered reply moment = operation.answered other moment := by
  unfold need? at need
  unfold answered
  cases phase : operation.phase <;> simp only [phase] at need
  case acquiring acquisition =>
      have need : acquisition.need? = some (.call (.revoke key token)) := by
        simpa using need
      simp only [Lock.Acquisition.answered_of_revoke need reply other]
  case releasing held ending => rfl
  all_goals cases need

theorem Ticket.after_blind {ticket : Ticket α ε} {event : Event α ε}
    (permitted : ticket.Permits event) : ticket.after event.blind = ticket.after event := by
  unfold Event.blind
  split
  · next key token reply moment =>
      simp only [after, answered_of_revoke permitted reply (.ok true)]
  · rfl

namespace Life

/-- Two lives that differ in what became of the attempts to give something back are one
life. -/
theorem eq_of_blind {start : Operation α ε} {path other : List (Ticket α ε × Event α ε)}
    {ticket twin : Ticket α ε} (life : Life start path ticket) (double : Life start other twin)
    (alike : path.map (·.2.blind) = other.map (·.2.blind)) : twin = ticket := by
  induction life generalizing other twin with
  | start =>
      cases double with
      | start => rfl
      | event double permitted => cases alike
  | event life permitted ih =>
      cases double with
      | start => cases alike
      | event double doubled =>
          obtain ⟨same, earlier⟩ := List.cons.inj alike
          obtain rfl := ih double earlier
          rw [← Ticket.after_blind doubled, ← Ticket.after_blind permitted]
          exact congrArg _ same.symm

variable {plan : Plan} {settings : Lock.Settings} {maxWait : Duration}
  {path : List (Ticket α ε × Event α ε)} {ticket : Ticket α ε}

/-- Whether an operation has gone for its key under a token. -/
def Claims (log : List (Call × Reply)) (token : String) : Prop :=
  ∃ key ttl reply, (.claim key token ttl, reply) ∈ log

/-- If every attempt to give something back was answered, nothing is left of an operation
that has ended. -/
theorem gone_of_result (life : Life (.create plan settings maxWait) path ticket)
    {result : Except (Failure ε) α} (ended : ticket.operation.result? = some result)
    {S : Type} [Store S] [Lawful S] {id : Lock.LockerId} {own : String → Prop}
    {origin lockers : Lock.Lockers S} {now : Instant}
    (served : origin.Served id own now (calls path) lockers)
    (returns : Lock.Lockers.Returns (calls path)) {token : String} (mine : own token)
    (free : origin.Free token) :
    (∀ service, ¬ lockers.Keeps service token) ∧
      ∀ key lease, Lawful.lease? lockers.store key = some lease → lease.token = token →
        lease.hasEnded now = true := by
  have clear := life.owed_of_result ended
  have keyed : ∀ other drawn ttl reply, (.claim other drawn ttl, reply) ∈ calls path →
      other = plan.key := fun _ _ _ _ => life.key_of_claim
  have accounts := served.accounts keyed mine free
  obtain ⟨ended, forgotten⟩ := accounts.gone returns (by simp [clear])
  refine ⟨fun service keeps => ?_, ended⟩
  obtain rfl := accounts.onlyAt.keeps keeps
  exact forgotten keeps

/-- The body of an operation starts at most once, and only once its key was granted under the
present token and every key that its guard names was seen free since.  An operation that the
store fails before that ends with this failure and never runs its body.  No operation ever
owes more than one entry; one that has ended owes none, and unless an attempt to give
something back failed none of its tokens is left.  What became of those attempts makes no
difference to the operation. -/
theorem hygiene (life : Life (.create plan settings maxWait) path ticket) :
    path.countP starts ≤ 1 ∧
    (∀ before event earlier, path = (before, event) :: earlier →
      starts (before, event) = true →
      ∃ token checks ttl prior, ticket.operation.phase = .running token ∧
        calls path = checks ++ (.claim plan.key token ttl, .ok true) :: prior ∧
        (∀ entry ∈ checks, ∃ key, entry.1 = .check key) ∧
        ∀ key, plan.guard.Names key → (.check key, .ok false) ∈ checks) ∧
    (∀ entry ∈ calls path, ∀ error, IsFault entry error →
      (∀ step ∈ path, starts step = false) ∧
        ∀ result, ticket.operation.result? = some result →
          result = .error (.unavailable plan.key (.unavailable entry.1.key error))) ∧
    (owed (calls path)).length ≤ 1 ∧
    (∀ result, ticket.operation.result? = some result →
      (∀ later prior key token ttl,
        calls path = later ++ (.claim key token ttl, .ok true) :: prior →
          ∃ reply, (.revoke key token, reply) ∈ later) ∧
      ∀ {S : Type} [Store S] [Lawful S] (id : Lock.LockerId) (origin lockers : Lock.Lockers S)
        (now : Instant), origin.Served id (Claims (calls path)) now (calls path) lockers →
        Lock.Lockers.Returns (calls path) →
        ∀ token, Claims (calls path) token → origin.Free token →
          (∀ service, ¬ lockers.Keeps service token) ∧
            ∀ key lease, Lawful.lease? lockers.store key = some lease → lease.token = token →
              lease.hasEnded now = true) ∧
    ∀ other twin, Life (.create plan settings maxWait) other twin →
      path.map (·.2.blind) = other.map (·.2.blind) → twin = ticket := by
  refine ⟨life.countP_starts, fun _ _ _ => life.granted_of_starts, ?_, life.ledger.few, ?_,
    fun other twin double => life.eq_of_blind double⟩
  · intro entry member error fault
    refine ⟨fun step => life.not_starts_of_isFault member fault, fun result ended => ?_⟩
    have fails := life.failsWith member fault
    rw [finished_of_result ended] at fails
    exact fails
  · intro result ended
    exact ⟨fun _ _ _ _ _ granted => life.returned_of_result ended granted,
      fun id origin lockers now served returns token claims free =>
        life.gone_of_result ended served returns claims free⟩

/-- A document is wanted while its workspace is locked: its key is had, given back and had
again, and then the body breaks down. -/
def secondRound : List (Event Nat Unit) :=
  [.begun (.at ⟨0⟩ .zero "first"),
    .answered (.claim "doc:w:a" "first" Lock.Settings.standard.ttl) (.ok true)
      (.at ⟨1⟩ .zero "second"),
    .answered (.check "workspace:w") (.ok true) (.at ⟨2⟩ .zero "second"),
    .answered (.revoke "doc:w:a" "first") (.ok true) (.at ⟨3⟩ .zero "second"),
    .rested (.at ⟨4⟩ .zero "second"),
    .answered (.claim "doc:w:a" "second" Lock.Settings.standard.ttl) (.ok true)
      (.at ⟨6⟩ .zero "third"),
    .answered (.check "workspace:w") (.ok false) (.at ⟨7⟩ .zero "third"), .ended (.panic none),
    .answered (.revoke "doc:w:a" "second") (.ok true) (.at ⟨9⟩ .zero "third")]

/-- One locker works for the operation, the other has locked the workspace. -/
def busy : Lock.Lockers Memory :=
  ⟨⟨.ofList [("workspace:w", ⟨"other", ⟨1000⟩⟩)]⟩,
    .ofList [(0, ⟨.standard, .empty⟩), (1, ⟨.standard, .ofList [("other", "workspace:w")]⟩)]⟩

/-- The calls of the operation, latest first. -/
def secondLog : List (Call × Reply) :=
  [(.revoke "doc:w:a" "second", .ok true), (.check "workspace:w", .ok false),
    (.claim "doc:w:a" "second" Lock.Settings.standard.ttl, .ok true),
    (.revoke "doc:w:a" "first", .ok true), (.check "workspace:w", .ok true),
    (.claim "doc:w:a" "first" Lock.Settings.standard.ttl, .ok true)]

theorem mem_of_claims_secondLog {token : String} (claims : Claims secondLog token) :
    token ∈ ["first", "second"] := by
  obtain ⟨key, ttl, reply, member⟩ := claims
  simp only [secondLog, List.mem_cons, Prod.mk.injEq, Call.claim.injEq] at member
  grind

theorem free_busy {token : String} (claims : Claims secondLog token) : busy.Free token := by
  have apart : token ≠ "other" := by
    have known := mem_of_claims_secondLog claims
    rintro rfl
    revert known
    decide
  constructor
  · intro key lease found same
    have kept : (key, lease) ∈ [("workspace:w", (⟨"other", ⟨1000⟩⟩ : Lease.Entry))] :=
      Table.get?_eq_some_iff.mp found
    cases List.mem_singleton.mp kept
    exact apart same.symm
  · rintro service ⟨locker, key, found, held⟩
    have member : (service, locker) ∈ [(0, ⟨.standard, .empty⟩),
        (1, (⟨.standard, .ofList [("other", "workspace:w")]⟩ : Lock.Locker))] :=
      Table.get?_eq_some_iff.mp found
    rcases List.mem_cons.mp member with equal | other
    · cases equal
      cases held
    · cases List.mem_singleton.mp other
      have kept : (token, key) ∈ [("other", "workspace:w")] := Table.get?_eq_some_iff.mp held
      cases List.mem_singleton.mp kept
      exact apart rfl

/-- Those calls are answered so if the other locker gives its lock back meanwhile. -/
theorem served_secondLog : ∃ served, busy.Served 0 (Claims secondLog) ⟨9⟩ secondLog served := by
  have begun : busy.Served 0 (Claims secondLog) ⟨0⟩ [] busy := .start
  have claimed := begun.called none ⟨1⟩
    (.claim "doc:w:a" "first" Lock.Settings.standard.ttl) (by decide)
  have checked := claimed.called none ⟨2⟩ (.check "workspace:w") (by decide)
  have yielded := checked.called none ⟨3⟩ (.revoke "doc:w:a" "first") (by decide)
  have unlocked := yielded.foreign 1 none ⟨4⟩ (.revoke "workspace:w" "other")
    fun _ _ _ _ => nofun
  have again := unlocked.called none ⟨6⟩
    (.claim "doc:w:a" "second" Lock.Settings.standard.ttl) (by decide)
  have admitted := again.called none ⟨7⟩ (.check "workspace:w") (by decide)
  have returned := admitted.called none ⟨9⟩ (.revoke "doc:w:a" "second") (by decide)
  exact ⟨_, returned⟩

/-- The operation ends with the breakdown, and both of its tokens are gone. -/
theorem hygiene_second_round : ∃ path ticket served,
    Life (.create (.document ⟨"w", "a"⟩) .standard (.ofSecs 1) : Operation Nat Unit) path ticket ∧
      path.map Prod.snd = secondRound.reverse ∧
      ticket.operation.result? = some (.error (.failed "doc:w:a" (.panic none))) ∧
      busy.Served 0 (Claims (calls path)) ⟨9⟩ (calls path) served ∧
      path.countP starts ≤ 1 ∧ (owed (calls path)).length ≤ 1 ∧
      ∀ token ∈ ["first", "second"], (∀ service, ¬ served.Keeps service token) ∧
        ∀ key lease, Lawful.lease? served.store key = some lease → lease.token = token →
          lease.hasEnded ⟨9⟩ = true := by
  have permitted : (⟨.create (.document ⟨"w", "a"⟩) .standard (.ofSecs 1), none⟩ :
      Ticket Nat Unit).PermitsAll secondRound := by decide
  have life := Life.start.of_events permitted
  obtain ⟨served, history⟩ := served_secondLog
  obtain ⟨once, -, -, few, returned, -⟩ := life.hygiene
  refine ⟨_, _, served, life, rfl, rfl, history, once, few, fun token member => ?_⟩
  have claims : Claims secondLog token := by
    rcases List.mem_cons.mp member with rfl | second
    · exact ⟨_, _, _, List.mem_of_getElem? (i := 5) rfl⟩
    · cases List.mem_singleton.mp second
      exact ⟨_, _, _, List.mem_of_getElem? (i := 2) rfl⟩
  have returns : Lock.Lockers.Returns secondLog := by
    intro key token error failed
    simp [secondLog] at failed
  exact (returned _ rfl).2 0 busy served ⟨9⟩ history returns token claims (free_busy claims)

end Life

end Operation

end Coedit
