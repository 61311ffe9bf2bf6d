/-!
# Programs that ask

A program either is done or asks its surroundings for one thing and goes on with
the answer.  Between a question and its answer anything may happen elsewhere, so
a program is also the list of the places where others can come in between.
-/

namespace Coedit

/-- A program that asks questions `Ask`, whose answers are of type `Answer`, and
ends with an `α`. -/
inductive Program (Ask : Type) (Answer : Ask → Type) (α : Type) where
  | done (value : α)
  | ask (question : Ask) (next : Answer question → Program Ask Answer α)

namespace Program

variable {Ask : Type} {Answer : Ask → Type} {α β : Type}

/-- Go on with another program. -/
def bind : Program Ask Answer α → (α → Program Ask Answer β) → Program Ask Answer β
  | .done value, next => next value
  | .ask question rest, next => .ask question fun answer => (rest answer).bind next

instance : Monad (Program Ask Answer) where
  pure := .done
  bind := bind

@[simp] theorem pure_eq (value : α) : (pure value : Program Ask Answer α) = .done value := rfl

@[simp] theorem done_bind (value : α) (next : α → Program Ask Answer β) :
    (Program.done value >>= next) = next value := rfl

@[simp] theorem ask_bind (question : Ask) (rest : Answer question → Program Ask Answer α)
    (next : α → Program Ask Answer β) :
    (Program.ask question rest >>= next) = .ask question fun answer => rest answer >>= next :=
  rfl

/-- Ask one question. -/
def query (question : Ask) : Program Ask Answer (Answer question) :=
  .ask question .done

/-- Go on with the value of a program that may fail; a failure ends it. -/
def andThen {ε : Type} (program : Program Ask Answer (Except ε α))
    (next : α → Program Ask Answer (Except ε β)) : Program Ask Answer (Except ε β) :=
  program >>= fun
    | .ok value => next value
    | .error error => .done (.error error)

/-- Change the result. -/
def mapResult (image : α → β) (program : Program Ask Answer α) : Program Ask Answer β :=
  program >>= fun value => .done (image value)

/-- Let one answerer with a state of its own answer every question. -/
def run {σ : Type} (answer : (question : Ask) → σ → Answer question × σ) :
    Program Ask Answer α → σ → α × σ
  | .done value, state => (value, state)
  | .ask question next, state =>
      let (reply, after) := answer question state
      (next reply).run answer after

/-- Answers to questions of two kinds. -/
abbrev Either {Ask Ask' : Type} (Answer : Ask → Type) (Answer' : Ask' → Type) :
    Ask ⊕ Ask' → Type
  | .inl question => Answer question
  | .inr question => Answer' question

/-- A program whose questions are the right ones of two kinds. -/
def onRight {Left : Type} {LeftAnswer : Left → Type} :
    Program Ask Answer α → Program (Left ⊕ Ask) (Either LeftAnswer Answer) α
  | .done value => .done value
  | .ask question next => .ask (.inr question) fun answer => (next answer).onRight

/-- Ask the same questions in other words. -/
def relabel {Ask' : Type} {Answer' : Ask' → Type} (word : Ask → Ask')
    (understand : (question : Ask) → Answer' (word question) → Answer question) :
    Program Ask Answer α → Program Ask' Answer' α
  | .done value => .done value
  | .ask question next =>
      .ask (word question) fun answer =>
        (next (understand question answer)).relabel word understand

end Program

end Coedit
