import CipherMeter.Host
import CipherMeter.Options

/-!
# Outcomes of commands

A command that ends prints all of its lines, or one line that tells the fault; the exit code says
which. After a crash nothing is printed, nor after arguments that are not understood.
-/

namespace CipherMeter

structure Outcome where
  code : Nat
  output : String
  deriving DecidableEq, Repr

namespace Outcome

def unlines (lines : List String) : String := String.join (lines.map (· ++ "\n"))

def success (lines : List String) : Outcome := ⟨0, unlines lines⟩

def failure (label : String) : Failure → Outcome
  | .fault fault => ⟨fault.exitCode, unlines [label ++ fault.message]⟩
  | .crash crash => ⟨crash.exitCode, ""⟩

def usage : Outcome := ⟨2, ""⟩

variable {m : Type → Type} [Monad m] [MonadExceptOf Failure m]

def conclude (label : String) (command : m (List String)) : m Outcome :=
  tryCatch (do return success (← command)) fun e ↦ return failure label e

def ofArguments {α : Type} (label : String) (execute : α → m (List String)) :
    Option α → m Outcome
  | some a => conclude label (execute a)
  | none => return usage

end Outcome

end CipherMeter
