import Coedit.Lock.Backoff
import Coedit.Schedule

/-!
# The stage

Where parts of the library play together under a virtual clock.  Beside the virtual
clock, by which tasks sleep, there is a real one, by which leases end and waits
run out; it moves a little with everything that happens.
-/

namespace Coedit.Rehearsal

/-- Whatever plays, in a world of its own type, and the real clock. -/
structure Stage (X : Type) where
  subject : X
  /-- The real clock. -/
  now : Instant
  /-- How many tokens were made. -/
  tokensMade : Nat

/-- Tasks on a stage are named by a service and a worker of it. -/
abbrev Play (X : Type) := Activity (Nat × Nat) (Stage X)

namespace Stage

variable {X : Type}

/-- The real time that one thing takes. -/
def pace : Duration := ⟨20000⟩

/-- The real time that passes while everyone sleeps. -/
def lull : Duration := ⟨100000⟩

/-- Let some real time pass. -/
def spend (stage : Stage X) (duration : Duration) : Stage X :=
  { stage with now := stage.now.later duration }

/-- A token in the form of a random one. -/
def token (number : Nat) : String :=
  let digits := toString number
  "00000000-0000-4000-8000-" ++ "".pushn '0' (12 - digits.length) ++ digits

/-- The moment at hand, with a token that is not used yet. -/
def moment (stage : Stage X) : Lock.Moment := .at stage.now .zero (token stage.tokensMade)

/-- Something happens that may take a token. -/
def happen (stage : Stage X) (change : Lock.Moment → X → X) : Stage X :=
  ⟨change stage.moment stage.subject, stage.now.later pace, stage.tokensMade + 1⟩

end Stage

/-- What a course waits for. -/
inductive Need where
  /-- Nothing: it can go on. -/
  | step
  /-- The answer to a call, in the meantime of which others can go on if it is
  slow. -/
  | call (slow : Bool)
  | pause (duration : Duration)
  deriving DecidableEq, Repr

/-- Something that makes calls and pauses until it needs neither. -/
structure Course (X : Type) where
  need? : X → Option Need
  /-- The call that is needed takes effect; the clocks show the virtual and the real
  time. -/
  perform : (shown now : Instant) → X → X
  /-- It goes on. -/
  resume : Lock.Moment → X → X

namespace Course

variable {X : Type}

/-- The next thing a course does. -/
def round (course : Course X) (stage : Stage X) : Option (Play X) :=
  let goOn : Play X := .act fun _ stage => (stage.happen course.resume, .stop)
  match course.need? stage.subject with
  | none => none
  | some .step => some goOn
  | some (.pause duration) =>
      some (.pause duration (.act fun _ stage =>
        ((stage.spend Stage.lull).happen course.resume, .stop)))
  | some (.call slow) =>
      some (.act fun shown stage =>
        (stage.happen fun moment => course.perform shown (moment.clock 0),
          if slow then .yield goOn else goOn))

/-- Follow a course to its end. -/
def play (course : Course X) (next : Play X) : Play X := .repeated course.round next

end Course

/-- Do something at once and go on with what comes of it. -/
def act {X ρ : Type} (piece : (shown now : Instant) → X → ρ × X) (next : ρ → Play X) : Play X :=
  .act fun shown stage =>
    let (result, subject) := piece shown stage.now stage.subject
    ({ stage with subject := subject, now := stage.now.later Stage.pace }, next result)

/-- Wait until the world is as wanted. -/
def awaitThat {X : Type} (ready : X → Bool) (next : Play X) : Play X :=
  .await (fun stage => ready stage.subject) none next

/-- A world that can say what a play comes to. -/
class HasResult (X : Type) (α : outParam Type) where
  result : X → Option α
  setResult : α → X → X

/-- The most steps a play takes. -/
def patience : Nat := 1000000000

/-- Play in a world until the main task says what it comes to. -/
def perform {X α : Type} [HasResult X α] (world : X) (now : Instant)
    (play : (α → Play X) → Play X) : Option α :=
  let tell (result : α) : Play X :=
    act (fun _ _ world => ((), HasResult.setResult result world)) fun _ => .stop
  let last := (Schedule.start (⟨world, now, 0⟩ : Stage X) (play tell)).run patience
  HasResult.result last.world.subject

end Coedit.Rehearsal
