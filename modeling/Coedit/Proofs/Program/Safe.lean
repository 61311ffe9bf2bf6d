import Coedit.Program

/-!
# Safe programs

What a program may ask depends on a state, and so do the answers it may be given,
which change the state.  A program is safe for a condition if it never asks what
it may not ask and if, whatever it is answered, the condition holds where it ends.
-/

namespace Coedit.Program

/-- What may be asked in a state, and which answers may come and where they lead. -/
structure Rules (σ Ask : Type) (Answer : Ask → Type) where
  asks : σ → Ask → Prop
  answers : σ → (question : Ask) → Answer question → σ → Prop

variable {σ τ Ask : Type} {Answer : Ask → Type} {α β ε : Type} {rules : Rules σ Ask Answer}

/-- Whatever is answered, the program keeps to the rules and ends where the condition
holds. -/
def Safe (rules : Rules σ Ask Answer) (post : α → σ → Prop) :
    Program Ask Answer α → σ → Prop
  | .done value, state => post value state
  | .ask question next, state =>
      rules.asks state question ∧
        ∀ answer after, rules.answers state question answer after →
          (next answer).Safe rules post after

namespace Safe

/-- A safe program is safe for every condition that follows. -/
theorem mono {weak strong : α → σ → Prop} {program : Program Ask Answer α} {state : σ}
    (safe : program.Safe rules strong state)
    (follows : ∀ value after, strong value after → weak value after) :
    program.Safe rules weak state := by
  induction program generalizing state with
  | done value => exact follows value state safe
  | ask question next ih =>
      refine ⟨safe.1, ?_⟩
      intro answer after answered
      exact ih answer (safe.2 answer after answered)

theorem bind {post : β → σ → Prop} {first : Program Ask Answer α}
    {next : α → Program Ask Answer β} {state : σ}
    (safe : first.Safe rules (fun value after => (next value).Safe rules post after) state) :
    (first.bind next).Safe rules post state := by
  induction first generalizing state with
  | done value => exact safe
  | ask question rest ih =>
      refine ⟨safe.1, ?_⟩
      intro answer after answered
      exact ih answer (safe.2 answer after answered)

/-- A failure ends the program, a value is passed on. -/
theorem andThen {post : Except ε β → σ → Prop} {first : Program Ask Answer (Except ε α)}
    {next : α → Program Ask Answer (Except ε β)} {state : σ}
    (safe : first.Safe rules (fun result after =>
      match result with
      | .ok value => (next value).Safe rules post after
      | .error error => post (.error error) after) state) :
    (first.andThen next).Safe rules post state := by
  refine bind (safe.mono ?_)
  intro result after goesOn
  cases result with
  | ok value => exact goesOn
  | error error => exact goesOn

/-- A program keeps to rules that are those of another state together with something
that its questions do not touch. -/
theorem onRight {Left : Type} {LeftAnswer : Left → Type}
    {outer : Rules (τ × σ) (Left ⊕ Ask) (Either LeftAnswer Answer)}
    (asks : ∀ {beside state question}, rules.asks state question →
      outer.asks (beside, state) (.inr question))
    (answers : ∀ {beside state question answer after},
      outer.answers (beside, state) (.inr question) answer after →
        after.1 = beside ∧ rules.answers state question answer after.2)
    {post : α → τ × σ → Prop} {program : Program Ask Answer α} {beside : τ} {state : σ}
    (safe : program.Safe rules (fun value after => post value (beside, after)) state) :
    program.onRight.Safe outer post (beside, state) := by
  induction program generalizing state with
  | done value => exact safe
  | ask question next ih =>
      refine ⟨asks safe.1, ?_⟩
      rintro answer ⟨beside', after⟩ answered
      obtain ⟨rfl, inner⟩ := answers answered
      exact ih answer (safe.2 answer after inner)

/-- Where a program ends that is run on a world which keeps to the rules. -/
theorem run {World : Type} {answer : (question : Ask) → World → Answer question × World}
    {matching : σ → World → Prop}
    (answered : ∀ {state world question}, matching state world → rules.asks state question →
      ∃ after, rules.answers state question (answer question world).1 after ∧
        matching after (answer question world).2)
    {post : α → σ → Prop} {program : Program Ask Answer α} {state : σ} {world : World}
    (safe : program.Safe rules post state) (fits : matching state world) :
    ∃ after, post (program.run answer world).1 after ∧
      matching after (program.run answer world).2 := by
  induction program generalizing state world with
  | done value => exact ⟨state, safe, fits⟩
  | ask question next ih =>
      obtain ⟨after, keeps, fits'⟩ := answered fits safe.1
      exact ih _ (safe.2 _ after keeps) fits'

/-- How a safe program can end if every question can be answered so that a condition goes
on to hold. -/
theorem ends {holds : σ → Prop} (goesOn : ∀ {state question}, holds state →
      rules.asks state question →
      ∃ answer after, rules.answers state question answer after ∧ holds after)
    {post : α → σ → Prop} {program : Program Ask Answer α} {state : σ}
    (safe : program.Safe rules post state) (here : holds state) :
    ∃ value after, post value after ∧ holds after := by
  induction program generalizing state with
  | done value => exact ⟨value, state, safe, here⟩
  | ask question next ih =>
      obtain ⟨answer, after, answered, there⟩ := goesOn here safe.1
      exact ih answer (safe.2 answer after answered) there

end Safe

/-- Whether all questions of a program are of a kind, each told with the programs that
follow on its answers. -/
def Every (kind : (question : Ask) → (Answer question → Program Ask Answer α) → Prop) :
    Program Ask Answer α → Prop
  | .done _ => True
  | .ask question next => kind question next ∧ ∀ answer, (next answer).Every kind

theorem Every.bind {calm : Ask → Prop}
    {kind : (question : Ask) → (Answer question → Program Ask Answer β) → Prop}
    (plain : ∀ question next, calm question → kind question next)
    {first : Program Ask Answer α} {next : α → Program Ask Answer β}
    (every : first.Every fun question _ => calm question)
    (rest : ∀ value, (next value).Every kind) :
    (first.bind next).Every kind := by
  induction first with
  | done value => exact rest value
  | ask question next ih =>
      exact ⟨plain question _ every.1, fun answer => ih answer (every.2 answer)⟩

/-- A failure asks for nothing more. -/
theorem Every.andThen {calm : Ask → Prop} {first : Program Ask Answer (Except ε α)}
    {next : α → Program Ask Answer (Except ε β)}
    (every : first.Every fun question _ => calm question)
    (rest : ∀ value, (next value).Every fun question _ => calm question) :
    (first.andThen next).Every fun question _ => calm question := by
  refine Every.bind (fun _ _ calm => calm) every ?_
  intro result
  cases result with
  | ok value => exact rest value
  | error error => trivial

theorem every_onRight {Left : Type} {LeftAnswer : Left → Type} {calm : Left ⊕ Ask → Prop}
    (right : ∀ question, calm (.inr question)) (program : Program Ask Answer α) :
    (program.onRight : Program (Left ⊕ Ask) (Either LeftAnswer Answer) α).Every
      fun question _ => calm question := by
  induction program with
  | done value => trivial
  | ask question next ih => exact ⟨right question, ih⟩

/-- A program whose value is passed on is run to its value first. -/
theorem run_andThen {World : Type} {answer : (question : Ask) → World → Answer question × World}
    {program : Program Ask Answer (Except ε α)} {next : α → Program Ask Answer (Except ε β)}
    {world after : World} {value : α} (ends : program.run answer world = (.ok value, after)) :
    (program.andThen next).run answer world = (next value).run answer after := by
  induction program generalizing world with
  | done result =>
      cases ends
      rfl
  | ask question rest ih => exact ih _ ends

end Coedit.Program
