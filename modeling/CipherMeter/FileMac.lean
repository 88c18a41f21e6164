import CipherMeter.FileMac.Settings
import CipherMeter.Mac.Absorb

/-!
# The code of a file

A file is read in chunks into HMAC-SHA256, and the finalization of the code is timed.
-/

namespace CipherMeter.FileMac

structure Report where
  bytesRead : Nat
  finalize : Stats
  digest : Digest Sha256.digestSize
  deriving DecidableEq

def Report.lines (r : Report) : List String :=
  r.finalize.lines "calculate HMAC" ++ ["HMAC: " ++ r.digest.text]

def ioError : AbsorbFault IoError → IoError
  | .reader e => e
  | fault => .other (fault.message IoError.message)

variable {m : Type → Type} [Monad m] [MonadExceptOf Failure m] [Host m]

def loadKey : KeySource → m MacKey
  | .literal key => return ⟨key⟩
  | .file path => return ⟨← Inputs.read path⟩

def stream (mac : Mac) (path : Path) (chunkSize : Nat) : m (Nat × Mac) := do
  let contents ← orIoFault path (← Host.readFile path)
  let result := mac.absorb Bytes.memoryLimit (.ofBytes contents) chunkSize
  let count ← orIoFault path (result.outcome.mapError ioError)
  return (count, result.mac)

def run (s : Settings) : m Report := do
  orFault s.validate
  let sampler ← orFault s.sampler
  let key ← loadKey s.key
  let (count, mac) ← stream (.ofKey key) s.filePath s.chunkSize
  Host.record (.inputStreamed count s.chunkSize)
  let (digest, finalize) ← sampler.runWithSetup "hmac" (pure mac)
    fun mac ↦ Clock.evaluate fun _ ↦ mac.finalize
  Host.record (.macDone count finalize.median)
  return ⟨count, finalize, digest⟩

def text (path : Path) (key : Bytes) : m String :=
  tryCatch (do return (← run { key := .literal key, filePath := path }).digest.text) fun
    | .fault fault => return fault.message
    | .crash crash => throw (.crash crash)

end CipherMeter.FileMac
