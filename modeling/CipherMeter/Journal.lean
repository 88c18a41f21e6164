import CipherMeter.Cipher
import CipherMeter.Duration

/-!
# Journal

What a benchmark notes down while it runs. An event tells paths, lengths, names and durations; no
event has a place for the bytes of a key, a nonce, a text or a digest.
-/

namespace CipherMeter

inductive Level
  | debug
  | info
  | warn
  deriving DecidableEq, Repr

def Level.name : Level → String
  | debug => "DEBUG"
  | info => "INFO"
  | warn => "WARN"

inductive Event
  | inputLoaded (path : Path) (length : Nat)
  | inputsWritten (dir : Path) (keySize plaintextSize : Nat)
  | roundTripStarted (size : Aes.KeySize) (length : Nat)
  /-- A tag was verified although the ciphertext is not that of the plaintext. -/
  | plaintextNotReproduced
  /-- A round trip is over; the durations are medians. -/
  | roundTripDone (size : Aes.KeySize) (length : Nat) (encrypt decrypt : Duration)
      (authenticated : Bool)
  | inputStreamed (length chunkSize : Nat)
  /-- The code of a file is computed; the duration is a median. -/
  | macDone (length : Nat) (finalize : Duration)
  deriving DecidableEq, Repr

namespace Event

def level : Event → Level
  | plaintextNotReproduced => .warn
  | roundTripDone .. | macDone .. => .info
  | _ => .debug

def message : Event → String
  | inputLoaded .. => "loaded input"
  | inputsWritten .. => "wrote inputs"
  | roundTripStarted .. => "starting AES-GCM round trip"
  | plaintextNotReproduced => "decryption verified but did not reproduce the plaintext"
  | roundTripDone .. => "AES-GCM round trip done"
  | inputStreamed .. => "streamed input into HMAC"
  | macDone .. => "HMAC-SHA256 done"

def fields : Event → List (String × String)
  | inputLoaded path length => [("path", path.display), ("len", toString length)]
  | inputsWritten dir keySize plaintextSize =>
    [("dir", dir.display), ("key_size", toString keySize),
      ("plaintext_size", toString plaintextSize)]
  | roundTripStarted size length => [("cipher", Cipher.nameOf size), ("len", toString length)]
  | plaintextNotReproduced => []
  | roundTripDone size length encrypt decrypt authenticated =>
    [("cipher", Cipher.nameOf size), ("len", toString length),
      ("encrypt_secs", encrypt.secondsText), ("decrypt_secs", decrypt.secondsText),
      ("authenticated", toString authenticated)]
  | inputStreamed length chunkSize =>
    [("len", toString length), ("chunk_size", toString chunkSize)]
  | macDone length finalize =>
    [("len", toString length), ("finalize_secs", finalize.secondsText)]

end Event

end CipherMeter
