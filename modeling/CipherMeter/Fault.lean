import CipherMeter.Hex
import CipherMeter.IoError
import CipherMeter.Path

/-!
# Faults

A fault is a cause for which an operation is refused: the caller gets it as a value, and its text
and exit code are functions of it. A crash ends the program instead; the two together are what an
operation can fail with.
-/

namespace CipherMeter

inductive InputFlaw
  | hex (error : Hex.DecodeError)
  | noSamples (operation : String)
  | noIterations
  | iterationsAbove (limit count : Nat)
  | emptyChunk
  | chunkAbove (limit size : Nat)
  | seedLength
  | pathNotText
  | other (text : String)
  deriving DecidableEq, Repr

def InputFlaw.message : InputFlaw → String
  | .hex error => "invalid hex string: " ++ error.message
  | .noSamples operation => "no timing samples for " ++ operation
  | .noIterations => "iterations must be at least 1"
  | .iterationsAbove limit count => s!"iterations must be at most {limit}, got {count}"
  | .emptyChunk => "chunk size must be at least 1"
  | .chunkAbove limit size => s!"chunk size must be at most {limit} bytes, got {size}"
  | .seedLength => "seed must be 32 bytes"
  | .pathNotText => "path contains invalid UTF-8 characters"
  | .other text => text

def Path.textOrFlaw (p : Path) : Except InputFlaw String :=
  match p.text? with
  | some s => .ok s
  | none => .error .pathNotText

inductive Fault
  | io (path : Path) (error : IoError)
  | invalidKeyLength (actual : Nat)
  | invalidNonceLength (expected actual : Nat)
  | inputLengthWrong (expected : Nat)
  | inputTooLong (actual : Nat)
  | invalidInput (flaw : InputFlaw)
  | authenticationFailure
  deriving DecidableEq, Repr

namespace Fault

def message : Fault → String
  | .io path error => error.message ++ ": '" ++ path.display ++ "'"
  | .invalidKeyLength n => s!"Invalid key length {n}, expected 16, 24 or 32 bytes"
  | .invalidNonceLength expected actual =>
    s!"Invalid nonce length {actual}, expected {expected} bytes"
  | .inputLengthWrong n => s!"Expected input of length exactly {n}"
  | .inputTooLong n => s!"Input of {n} bytes exceeds the AES-GCM length limit"
  | .invalidInput flaw => "Invalid input: " ++ flaw.message
  | .authenticationFailure => "Authentication failed"

/-- Files answer for one exit code, data for the other. -/
def exitCode : Fault → Nat
  | .io .. => 74
  | _ => 65

end Fault

def Hex.decodeOrFault (s : String) : Except Fault Bytes :=
  (Hex.decode s).mapError fun error ↦ .invalidInput (.hex error)

inductive Crash
  | durationSum
  | secondsTooLarge
  | capacity
  | outOfMemory (size : Nat)
  deriving DecidableEq, Repr

namespace Crash

/-- The crash in which a program ends that takes no refusal of a buffer of `size` bytes, none if
they can be addressed and fit into `memory`. -/
def ofAllocation? (memory size : Nat) : Option Crash :=
  if Bytes.addressLimit < size then some .capacity
  else if memory < size then some (.outOfMemory size)
  else none

def message : Crash → String
  | .durationSum => "overflow when adding durations"
  | .secondsTooLarge =>
    "cannot convert float seconds to Duration: value is either too big or NaN"
  | .capacity => "capacity overflow"
  | .outOfMemory size => s!"memory allocation of {size} bytes failed"

/-- Without memory the program is aborted, by a signal that a shell tells with this code. -/
def exitCode : Crash → Nat
  | .outOfMemory _ => 134
  | _ => 101

end Crash

inductive Failure
  | fault (f : Fault)
  | crash (c : Crash)
  deriving DecidableEq, Repr

end CipherMeter
