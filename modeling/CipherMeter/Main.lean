import CipherMeter.FileMac.Command
import CipherMeter.Inputs.Command
import CipherMeter.RoundTrip.Command

/-!
# The program

The first argument names a command, and the others are its own. Results go to standard output and
warnings to standard error.
-/

namespace CipherMeter

abbrev Machine := ExceptT Failure (StateT Generator IO)

namespace Machine

def errorNumber? : IO.Error → Option UInt32
  | .alreadyExists _ n _ | .otherError n _ | .resourceBusy n _ | .resourceVanished n _
  | .unsupportedOperation n _ | .hardwareFault n _ | .unsatisfiedConstraints n _
  | .illegalOperation n _ | .protocolError n _ | .timeExpired n _ | .interrupted _ n _
  | .noFileOrDirectory _ n _ | .invalidArgument _ n _ | .permissionDenied _ n _
  | .resourceExhausted _ n _ | .inappropriateType _ n _ | .noSuchThing _ n _ => some n
  | .unexpectedEof | .userError _ => none

def ioError (e : IO.Error) : IoError :=
  match errorNumber? e with
  | some n => .os n.toNat
  | none => .other (toString e)

def access {α : Type} (p : Path) (f : String → IO α) : IO (Except IoError α) :=
  if p.bytes.contains 0 then return .error .nulInName
  else
    match p.text? with
    | some name => do
      match ← (f name).toBaseIO with
      | .ok a => return .ok a
      | .error e => return .error (ioError e)
    | none => return .error .notFound

instance : Host Machine where
  now := do return (Duration.ofNanos? (← IO.monoNanosNow)).getD .zero
  evaluate f := IO.lazyPure f
  readFile p := access p fun name ↦ do
    let file ← IO.FS.Handle.mk name .read
    return (← file.readBinToEnd).data.toList
  writeFile p a := access p fun name ↦ do
    let file ← IO.FS.Handle.mk name .write
    file.write ⟨a.toArray⟩
    file.flush
  record e := if e.level = .warn then IO.eprintln (e.level.name ++ " " ++ e.message) else pure ()
  draw n := modifyGetThe Generator fun g ↦ g.draw n
  reseed seed := set (Generator.ofSeed seed)

end Machine

def command? : String → Option (List String → Machine Outcome)
  | "round-trip" => some RoundTrip.command
  | "file-mac" => some FileMac.command
  | "generate" => some fun arguments ↦ Inputs.command arguments
  | _ => none

def outcome (arguments : List String) : Machine Outcome :=
  match arguments with
  | [] => return .usage
  | name :: rest =>
    match command? name with
    | some command => command rest
    | none => return .usage

def usageText : String := "usage: ciphermeter round-trip|file-mac|generate [--option value]..."

def freshGenerator : IO Generator := do
  let seed := (← IO.getRandomBytes 32).data.toList
  return if h : seed.length = 32 then .ofSeed ⟨seed, h⟩ else .ofSeed ⟨Bytes.zeros 32, by simp⟩

end CipherMeter

open CipherMeter in
def main (arguments : List String) : IO UInt32 := do
  let (ended, _) ← (outcome arguments).run.run (← freshGenerator)
  match ended with
  | .ok o =>
    if o = .usage then IO.eprintln usageText
    IO.print o.output
    return UInt32.ofNat o.code
  | .error failure => return UInt32.ofNat (Outcome.failure "" failure).code
