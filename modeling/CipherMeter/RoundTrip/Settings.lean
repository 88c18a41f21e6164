import CipherMeter.Inputs
import CipherMeter.Sampler
import CipherMeter.Text.Echo

/-!
# Settings of a round trip

Which files are read, what is authenticated beside the plaintext, how often the transforms run, and
whether the ciphertext is tampered with. Settings are shown to diagnostics by `debug`, and to the
user by `echo`, which has only settings whose paths are text.
-/

namespace CipherMeter.RoundTrip

structure Settings where
  keyPath : Path := .ofString Inputs.keyName
  noncePath : Path := .ofString Inputs.nonceName
  plaintextPath : Path := .ofString Inputs.plaintextName
  aad : Bytes := []
  warmup : Nat := 0
  iterations : Nat := 1
  tamper : Bool := false
  deriving DecidableEq

namespace Settings

def sampler (s : Settings) : Except Fault Sampler := Sampler.make s.warmup s.iterations

def debug (s : Settings) : String :=
  "AesGcmConfig \x7b key_path: " ++ s.keyPath.quoted
    ++ ", iv_path: " ++ s.noncePath.quoted
    ++ ", plaintext_path: " ++ s.plaintextPath.quoted
    ++ ", aad: [" ++ String.intercalate ", " (s.aad.map fun b ↦ toString b.toNat)
    ++ "], warmup: " ++ toString s.warmup
    ++ ", iterations: " ++ toString s.iterations
    ++ ", tamper: " ++ toString s.tamper ++ " \x7d"

def echo (s : Settings) : Except InputFlaw String := do
  let key ← s.keyPath.textOrFlaw
  let nonce ← s.noncePath.textOrFlaw
  let plaintext ← s.plaintextPath.textOrFlaw
  return Text.echo [
    ("key_path", .scalar (.text key)),
    ("iv_path", .scalar (.text nonce)),
    ("plaintext_path", .scalar (.text plaintext)),
    ("aad", .scalar (.text (Hex.encode s.aad))),
    ("warmup", .scalar (.number s.warmup)),
    ("iterations", .scalar (.number s.iterations)),
    ("tamper", .scalar (.flag s.tamper))]

end Settings

end CipherMeter.RoundTrip
