import CipherMeter.FileMac
import CipherMeter.Outcome

/-!
# The code of a file as a command
-/

namespace CipherMeter.FileMac

structure Arguments where
  keyLiteral : Option String := none
  keyHex : Option String := none
  keyFile : Option Path := none
  file : Path := .ofString Inputs.plaintextName
  chunkSize : Nat := defaultChunkSize
  warmup : Nat := 0
  iterations : Nat := 1
  printConfig : Bool := false
  deriving DecidableEq

namespace Arguments

def grammar : Grammar := [
  ("key-literal", .text), ("key-hex", .text), ("key-file", .path), ("file", .path),
  ("chunk-size", .number), ("warmup", .number), ("iterations", .number), ("print-config", .flag)]

def keyOptions : List String := ["key-literal", "key-hex", "key-file"]

def ofOptions (given : List (String × OptionValue)) : Arguments :=
  let default : Arguments := {}
  { keyLiteral := Options.text? given "key-literal"
    keyHex := Options.text? given "key-hex"
    keyFile := Options.path? given "key-file"
    file := (Options.path? given "file").getD default.file
    chunkSize := (Options.numberOf? given "chunk-size").getD default.chunkSize
    warmup := (Options.numberOf? given "warmup").getD default.warmup
    iterations := (Options.numberOf? given "iterations").getD default.iterations
    printConfig := Options.has given "print-config" }

def parse? (arguments : List String) : Option Arguments :=
  (Options.parse? grammar arguments).bind fun given ↦
    if (keyOptions.filter (Options.has given)).length ≤ 1 then some (ofOptions given) else none

def keySource (a : Arguments) : Except Fault KeySource :=
  match a.keyLiteral, a.keyHex, a.keyFile with
  | some s, _, _ => .ok (.literal (Utf8.encode s))
  | none, some s, _ => (Hex.decodeOrFault s).map .literal
  | none, none, some path => .ok (.file path)
  | none, none, none => .ok (.literal (Utf8.encode defaultKey))

def settings (a : Arguments) : Except Fault Settings :=
  a.keySource.map fun key ↦ ⟨key, a.file, a.chunkSize, a.warmup, a.iterations⟩

end Arguments

/-- What announces a fault, in the place of the code. -/
def faultLabel : String := "HMAC: "

variable {m : Type → Type} [Monad m] [MonadExceptOf Failure m] [Host m]

def execute (a : Arguments) : m (List String) := do
  let settings ← orFault a.settings
  if a.printConfig then return [← orFault (settings.echo.mapError .invalidInput)]
  return (← run settings).lines

def command (arguments : List String) : m Outcome :=
  Outcome.ofArguments faultLabel execute (Arguments.parse? arguments)

end CipherMeter.FileMac
