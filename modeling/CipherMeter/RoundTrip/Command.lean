import CipherMeter.Outcome
import CipherMeter.RoundTrip

/-!
# The round trip as a command
-/

namespace CipherMeter.RoundTrip

structure Arguments where
  keyPath : Path := .ofString Inputs.keyName
  noncePath : Path := .ofString Inputs.nonceName
  plaintextPath : Path := .ofString Inputs.plaintextName
  aad : String := ""
  warmup : Nat := 0
  iterations : Nat := 1
  tamper : Bool := false
  printConfig : Bool := false
  deriving DecidableEq

namespace Arguments

def grammar : Grammar := [
  ("key", .path), ("iv", .path), ("plaintext", .path), ("aad", .text), ("warmup", .number),
  ("iterations", .number), ("tamper", .flag), ("print-config", .flag)]

def ofOptions (given : List (String × OptionValue)) : Arguments :=
  let default : Arguments := {}
  { keyPath := (Options.path? given "key").getD default.keyPath
    noncePath := (Options.path? given "iv").getD default.noncePath
    plaintextPath := (Options.path? given "plaintext").getD default.plaintextPath
    aad := (Options.text? given "aad").getD default.aad
    warmup := (Options.numberOf? given "warmup").getD default.warmup
    iterations := (Options.numberOf? given "iterations").getD default.iterations
    tamper := Options.has given "tamper"
    printConfig := Options.has given "print-config" }

def parse? (arguments : List String) : Option Arguments :=
  (Options.parse? grammar arguments).map ofOptions

def settings (a : Arguments) : Except Fault Settings :=
  (Hex.decodeOrFault a.aad).map fun aad ↦
    ⟨a.keyPath, a.noncePath, a.plaintextPath, aad, a.warmup, a.iterations, a.tamper⟩

end Arguments

def faultLabel : String := "Error: "

variable {m : Type → Type} [Monad m] [MonadExceptOf Failure m] [Host m]

def execute (a : Arguments) : m (List String) := do
  let settings ← orFault a.settings
  if a.printConfig then return [← orFault (settings.echo.mapError .invalidInput)]
  return (← run settings).lines

def command (arguments : List String) : m Outcome :=
  Outcome.ofArguments faultLabel execute (Arguments.parse? arguments)

end CipherMeter.RoundTrip
