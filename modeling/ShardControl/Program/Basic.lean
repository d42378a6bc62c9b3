/-!
# Programs over an interface

A program ends with a value or asks one question of its surroundings and goes
on with the answer.  What the questions mean is left to whoever runs it: one
run answers them from a state, and several programs can be run step by step
over a shared one.
-/

namespace ShardControl

/-- The questions that programs may ask, each with the type of its answers. -/
structure Interface where
  Call : Type
  Answer : Call → Type

/-- A value, or a question and how to go on with its answer. -/
inductive Program (I : Interface) (α : Type) where
  | done (value : α)
  | call (question : I.Call) (next : I.Answer question → Program I α)

namespace Program

variable {I J : Interface} {α β γ σ : Type}

def bind (program : Program I α) (next : α → Program I β) : Program I β :=
  match program with
  | .done value => next value
  | .call question rest => .call question fun answer => (rest answer).bind next

instance : Monad (Program I) where
  pure := .done
  bind := bind

def ask (question : I.Call) : Program I (I.Answer question) := .call question .done

/-- Run a program in surroundings that answer every question from their state. -/
def run (answer : (question : I.Call) → σ → I.Answer question × σ) :
    Program I α → σ → α × σ
  | .done value, state => (value, state)
  | .call question next, state =>
      let (found, changed) := answer question state
      (next found).run answer changed

/-- Replace every question by a program over another interface. -/
def interpret (meaning : (question : I.Call) → Program J (I.Answer question)) :
    Program I α → Program J α
  | .done value => .done value
  | .call question next => (meaning question).bind fun answer => (next answer).interpret meaning

@[simp] theorem done_bind (value : α) (next : α → Program I β) :
    (Program.done value).bind next = next value := rfl

@[simp] theorem call_bind (question : I.Call) (rest : I.Answer question → Program I α)
    (next : α → Program I β) :
    (Program.call question rest).bind next =
      .call question fun answer => (rest answer).bind next := rfl

theorem bind_done (program : Program I α) : program.bind .done = program := by
  induction program with
  | done value => rfl
  | call question next ih => exact congrArg (Program.call question) (funext ih)

theorem bind_assoc (program : Program I α) (first : α → Program I β)
    (second : β → Program I γ) :
    (program.bind first).bind second = program.bind fun value => (first value).bind second := by
  induction program with
  | done value => rfl
  | call question next ih => exact congrArg (Program.call question) (funext ih)

instance : LawfulMonad (Program I) :=
  LawfulMonad.mk' (Program I) bind_done (fun _ _ => rfl) bind_assoc

/-- Running a sequence runs its parts one after the other. -/
theorem run_bind (answer : (question : I.Call) → σ → I.Answer question × σ)
    (program : Program I α) (next : α → Program I β) (state : σ) :
    (program.bind next).run answer state =
      (next (program.run answer state).1).run answer (program.run answer state).2 := by
  induction program generalizing state with
  | done value => rfl
  | call question rest ih => exact ih _ _

/-- Interpreting a sequence interprets its parts one after the other. -/
theorem interpret_bind (meaning : (question : I.Call) → Program J (I.Answer question))
    (program : Program I α) (next : α → Program I β) :
    (program.bind next).interpret meaning =
      (program.interpret meaning).bind fun value => (next value).interpret meaning := by
  induction program with
  | done value => rfl
  | call question rest ih =>
      rw [call_bind, interpret, interpret, bind_assoc]
      exact congrArg (meaning question).bind (funext ih)

end Program

end ShardControl
