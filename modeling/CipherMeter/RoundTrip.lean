import CipherMeter.RoundTrip.Settings

/-!
# Round trips

A round trip encrypts a plaintext, decrypts the outcome and verifies its tag, both by the clock. All
inputs are read and checked before. Tampering is not an error: the report says that the tag was
refused.
-/

namespace CipherMeter

namespace Sealed

/-- The sealed text with one bit changed, of the first byte of the ciphertext, or of the tag if
there is no ciphertext. -/
def tampered (s : Sealed) : Sealed :=
  match s.ciphertext with
  | b :: r => { s with ciphertext := (b ^^^ 1) :: r }
  | [] => { s with tag := ⟨s.tag.val.modify 0 (· ^^^ 1), by simp [s.tag.property]⟩ }

end Sealed

namespace RoundTrip

structure Report where
  size : Aes.KeySize
  plaintextLength : Nat
  encrypt : Stats
  decrypt : Stats
  authenticated : Bool
  /-- Whether decryption gave the plaintext; no text is released if the tag is refused. -/
  plaintextMatches : Bool
  deriving DecidableEq

def successLine : String := "Authentication successful"

def failureLine : String := "Authentication failed - the data may have been tampered with!"

def Report.lines (r : Report) : List String :=
  r.encrypt.lines "encrypt" ++ r.decrypt.lines "decrypt"
    ++ [if r.authenticated then successLine else failureLine]

variable {m : Type → Type} [Monad m] [MonadExceptOf Failure m] [Host m]

def verdict (plaintext : Bytes) (verified : Except Fault Unit) (decrypted : Bytes) :
    Except Fault (Bool × Bool) :=
  match verified with
  | .ok () => .ok (true, decrypted = plaintext)
  | .error .authenticationFailure => .ok (false, false)
  | .error fault => .error fault

def run (s : Settings) : m Report := do
  let sampler ← orFault s.sampler
  let key ← Inputs.read s.keyPath
  let nonce ← Inputs.read s.noncePath
  let plaintext ← Inputs.read s.plaintextPath
  let cipher ← orFault (Cipher.ofBytes key)
  let iv ← orFault (Nonce.ofBytes nonce)
  Host.record (.roundTripStarted cipher.size plaintext.length)
  let ((tag, ciphertext), encrypt) ← sampler.runWithSetup "encrypt" (pure plaintext)
    fun buffer ↦ Clock.evaluate fun _ ↦ (cipher.encryptInPlace iv s.aad).run buffer
  let tag ← orFault tag
  let whole : Sealed := ⟨ciphertext, tag⟩
  let given := if s.tamper then whole.tampered else whole
  let ((verified, decrypted), decrypt) ← sampler.runWithSetup "decrypt" (pure given.ciphertext)
    fun buffer ↦ Clock.evaluate fun _ ↦ (cipher.decryptInPlace iv s.aad given.tag.val).run buffer
  let (authenticated, plaintextMatches) ← orFault (verdict plaintext verified decrypted)
  if authenticated && !plaintextMatches then Host.record .plaintextNotReproduced
  Host.record (.roundTripDone cipher.size plaintext.length encrypt.median decrypt.median
    authenticated)
  return ⟨cipher.size, plaintext.length, encrypt, decrypt, authenticated, plaintextMatches⟩

end RoundTrip

end CipherMeter
