import CipherMeter.Inputs
import CipherMeter.Outcome

/-!
# The generation of input files as a command
-/

namespace CipherMeter.Inputs

structure Arguments where
  keySize : Nat := 32
  plaintextSize : Nat := defaultPlaintextSize
  directory : Path := .ofString "."
  seed : Option String := none
  deriving DecidableEq

namespace Arguments

def grammar : Grammar := [
  ("key-size", .number), ("plaintext-size", .number), ("out-dir", .path), ("seed", .text)]

def ofOptions (given : List (String × OptionValue)) : Arguments :=
  let default : Arguments := {}
  { keySize := (Options.numberOf? given "key-size").getD default.keySize
    plaintextSize := (Options.numberOf? given "plaintext-size").getD default.plaintextSize
    directory := (Options.path? given "out-dir").getD default.directory
    seed := Options.text? given "seed" }

def parse? (arguments : List String) : Option Arguments :=
  (Options.parse? grammar arguments).map ofOptions

end Arguments

def readSeed (s : String) : Except Fault Seed := do
  let a ← Hex.decodeOrFault s
  if h : a.length = 32 then return ⟨a, h⟩ else throw (.invalidInput .seedLength)

def Paths.lines (p : Paths) : List String :=
  ["Key: " ++ p.key.display, "IV: " ++ p.nonce.display, "Plaintext: " ++ p.plaintext.display]

def faultLabel : String := "Error: "

variable {m : Type → Type} [Monad m] [MonadExceptOf Failure m] [Host m]

def execute (a : Arguments) (memory : Nat := Bytes.memoryLimit) : m (List String) := do
  if let some s := a.seed then
    let seed ← orFault (readSeed s)
    Host.reseed seed
  return (← generate a.directory a.keySize a.plaintextSize memory).lines

def command (arguments : List String) (memory : Nat := Bytes.memoryLimit) : m Outcome :=
  Outcome.ofArguments faultLabel (execute · memory) (Arguments.parse? arguments)

end CipherMeter.Inputs
