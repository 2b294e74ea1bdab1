import RavenBinding.Error.Failure
import RavenBinding.Log.Entry

/-!
# Programs that talk to a server

An operation is a program that sends requests and goes on with their replies. It also opens and
closes sessions, logs, and prints. A program fixes nothing about who answers.

## Main definitions

- `Program`: the type, with its monad
- `Action`: programs that may end with a failure
-/

namespace RavenBinding

/-- What a program shows to its surroundings besides its requests. -/
inductive Event where
  | log (entry : LogEntry)
  /-- A text for the output. -/
  | output (t : Text)
  /-- A text for the error stream. -/
  | errorOutput (t : Text)
  deriving DecidableEq, Repr

/-- A program with a result. -/
inductive Program (α : Type) where
  | done (result : α)
  /-- Sends a request and goes on with its reply. -/
  | send (request : Request) (next : Reply → Program α)
  /-- Takes up the resources of a session. -/
  | openSession (next : Program α)
  /-- Gives them back, which may raise a fault. -/
  | closeSession (next : Option Fault → Program α)
  | emit (event : Event) (next : Program α)

namespace Program

variable {α β : Type}

/-- Goes on with the result of a program. -/
def bind : Program α → (α → Program β) → Program β
  | done result, f => f result
  | send request next, f => send request fun reply => bind (next reply) f
  | openSession next, f => openSession (bind next f)
  | closeSession next, f => closeSession fun fault => bind (next fault) f
  | emit event next, f => emit event (bind next f)

instance : Monad Program where
  pure := done
  bind := bind

theorem bind_done (x : Program α) : bind x done = x := by
  induction x with
  | done result => rfl
  | send request next ih => simp only [bind, ih]
  | openSession next ih => simp only [bind, ih]
  | closeSession next ih => simp only [bind, ih]
  | emit event next ih => simp only [bind, ih]

theorem bind_assoc {γ : Type} (x : Program α) (f : α → Program β) (g : β → Program γ) :
    bind (bind x f) g = bind x fun a => bind (f a) g := by
  induction x with
  | done result => rfl
  | send request next ih => simp only [bind, ih]
  | openSession next ih => simp only [bind, ih]
  | closeSession next ih => simp only [bind, ih]
  | emit event next ih => simp only [bind, ih]

instance : LawfulMonad Program :=
  LawfulMonad.mk' Program bind_done (fun _ _ => rfl) bind_assoc

/-- Makes an entry of the log. -/
def log (level : Level) (logger message : Text) (context : FieldMap Text Text) : Program Unit :=
  emit (.log { level := level, logger := logger, message := message, context := context }) (done ())

/-- Prints a line. -/
def printLine (t : Text) : Program Unit := emit (.output (t ++ Text.ofString "\n")) (done ())

/-- Prints a line on the error stream. -/
def printError (t : Text) : Program Unit := emit (.errorOutput (t ++ Text.ofString "\n")) (done ())

/-- Sends a request. -/
def ask (request : Request) : Program Reply := send request done

end Program

/-- Programs that may end with a failure. -/
abbrev Action := ExceptT Failure Program

namespace Action

variable {α : Type}

/-- A result or failure without any exchange. -/
def ofExcept (x : Except Failure α) : Action α := Program.done x

/-- A program that does not fail. -/
def ofProgram (x : Program α) : Action α := x.bind fun result => .done (.ok result)

end Action

end RavenBinding
