import CipherMeter.Inputs
import CipherMeter.Sampler
import CipherMeter.Text.Echo

/-!
# Settings of the code of a file

Where the key comes from, which file is read in chunks of which size, and how often the code is
finalized. Neither `debug` nor `echo` shows more of a literal key than its length.
-/

namespace CipherMeter.FileMac

inductive KeySource
  | literal (key : Bytes)
  | file (path : Path)
  deriving DecidableEq

/-- The key when none is given. Its bytes are these characters, not what they write in
hexadecimal. -/
def defaultKey : String := "d8b66c54b3f5cd95115734d90b7c512504d71ce66711ea4ced2f5b41021a4313"

def defaultChunkSize : Nat := 1024

def maxChunkSize : Nat := 64 * 1024 * 1024

structure Settings where
  key : KeySource := .literal (Utf8.encode defaultKey)
  filePath : Path := .ofString Inputs.plaintextName
  chunkSize : Nat := defaultChunkSize
  warmup : Nat := 0
  iterations : Nat := 1
  deriving DecidableEq

def redacted (key : Bytes) : String := s!"<{key.length} bytes>"

namespace KeySource

def debug : KeySource → String
  | literal key => "Literal(" ++ redacted key ++ ")"
  | file path => "File(" ++ path.quoted ++ ")"

def echo : KeySource → Except InputFlaw Text.EchoValue
  | literal key => .ok (.record [("literal", .text (redacted key))])
  | file path => path.textOrFlaw.map fun s ↦ .record [("file", .text s)]

end KeySource

namespace Settings

def sampler (s : Settings) : Except Fault Sampler := Sampler.make s.warmup s.iterations

def validate (s : Settings) : Except Fault Unit :=
  if s.chunkSize = 0 then .error (.invalidInput .emptyChunk)
  else if maxChunkSize < s.chunkSize then
    .error (.invalidInput (.chunkAbove maxChunkSize s.chunkSize))
  else s.sampler.map fun _ ↦ ()

def debug (s : Settings) : String :=
  "HmacConfig \x7b key: " ++ s.key.debug
    ++ ", file_path: " ++ s.filePath.quoted
    ++ ", chunk_size: " ++ toString s.chunkSize
    ++ ", warmup: " ++ toString s.warmup
    ++ ", iterations: " ++ toString s.iterations ++ " \x7d"

def echo (s : Settings) : Except InputFlaw String := do
  let key ← s.key.echo
  let file ← s.filePath.textOrFlaw
  return Text.echo [
    ("key", key),
    ("file_path", .scalar (.text file)),
    ("chunk_size", .scalar (.number s.chunkSize)),
    ("warmup", .scalar (.number s.warmup)),
    ("iterations", .scalar (.number s.iterations))]

end Settings

end CipherMeter.FileMac
