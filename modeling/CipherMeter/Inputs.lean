import CipherMeter.Host

/-!
# Input files

Reading the files that a benchmark works on, and writing fresh ones: a key, a nonce and a plaintext
of random bytes, drawn in this order and written under fixed names. The plaintext may be of any
size, so that the buffer for it is where the program can run out of memory.
-/

namespace CipherMeter.Inputs

def keyName : String := "aes-gcm-key.bin"

def nonceName : String := "aes-gcm-iv.bin"

def plaintextName : String := "random_file"

def defaultPlaintextSize : Nat := 2048

structure Paths where
  key : Path
  nonce : Path
  plaintext : Path
  deriving DecidableEq

def Paths.inDirectory (dir : Path) : Paths where
  key := dir.join (Utf8.encode keyName)
  nonce := dir.join (Utf8.encode nonceName)
  plaintext := dir.join (Utf8.encode plaintextName)

variable {m : Type → Type} [Monad m] [MonadExceptOf Failure m] [Host m]

def read (path : Path) : m Bytes := do
  let a ← orIoFault path (← Host.readFile path)
  Host.record (.inputLoaded path a.length)
  return a

def write (path : Path) (a : Bytes) : m Unit := do
  orIoFault path (← Host.writeFile path a)

/-- Generates all three files. The plaintext has to fit into `memory` bytes. -/
def generate (dir : Path) (keySize plaintextSize : Nat) (memory : Nat := Bytes.memoryLimit) :
    m Paths := do
  if (Aes.KeySize.ofLength? keySize).isNone then throw (.fault (.invalidKeyLength keySize))
  let key ← Host.draw keySize
  let nonce ← Host.draw 12
  if let some crash := Crash.ofAllocation? memory plaintextSize then throw (.crash crash)
  let plaintext ← Host.draw plaintextSize
  let paths := Paths.inDirectory dir
  write paths.key key
  write paths.nonce nonce
  write paths.plaintext plaintext
  Host.record (.inputsWritten dir keySize plaintextSize)
  return paths

end CipherMeter.Inputs
