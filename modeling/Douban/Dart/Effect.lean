import Douban.Dart.Text

/-!
# Effects of Dart statements

A sequence of statements prints to the console, changes the memory it owns, and
may raise; an error keeps the effects of the statements before it and skips the
ones after it.
-/

namespace Douban.Dart

structure Process (Memory : Type) where
  console : List DartString
  memory : Memory

abbrev Effect (Memory : Type) : Type → Type :=
  ExceptT DartError (StateM (Process Memory))

namespace Effect

variable {Memory α β : Type}

/-- The outcome of the statements and the process they leave behind. -/
def perform (action : Effect Memory α) (process : Process Memory) :
    Except DartError α × Process Memory :=
  action.run.run process

/-- The value of an expression, or the error it raises. -/
def evaluate (expression : Except DartError α) : Effect Memory α :=
  ExceptT.mk (pure expression)

/-- `print(text)`. -/
def print (text : DartString) : Effect Memory Unit :=
  modify fun process =>
    { process with console := process.console ++ [text] }

/-- Assignment to the memory. -/
def assign (change : Memory → Memory) : Effect Memory Unit :=
  modify fun process => { process with memory := change process.memory }

@[simp] theorem perform_evaluate_ok (value : α) (process : Process Memory) :
    perform (evaluate (.ok value)) process = (.ok value, process) := rfl

@[simp] theorem perform_evaluate_error (error : DartError)
    (process : Process Memory) :
    perform (evaluate (.error error) : Effect Memory α) process =
      (.error error, process) := rfl

@[simp] theorem perform_print (text : DartString)
    (process : Process Memory) :
    perform (print text) process =
      (.ok (), { process with console := process.console ++ [text] }) := rfl

@[simp] theorem perform_assign (change : Memory → Memory)
    (process : Process Memory) :
    perform (assign change) process =
      (.ok (), { process with memory := change process.memory }) := rfl

theorem perform_bind_of_ok {action : Effect Memory α}
    {process middle : Process Memory} {value : α}
    (returned : perform action process = (.ok value, middle))
    (next : α → Effect Memory β) :
    perform (action >>= next) process = perform (next value) middle := by
  simp only [perform, ExceptT.run_bind, StateT.run_bind] at returned ⊢
  rw [returned]
  rfl

theorem perform_bind_of_error {action : Effect Memory α}
    {process middle : Process Memory} {error : DartError}
    (raised : perform action process = (.error error, middle))
    (next : α → Effect Memory β) :
    perform (action >>= next) process = (.error error, middle) := by
  simp only [perform, ExceptT.run_bind, StateT.run_bind] at raised ⊢
  rw [raised]
  rfl

end Effect

end Douban.Dart
