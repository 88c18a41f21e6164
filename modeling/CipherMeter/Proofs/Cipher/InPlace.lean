import CipherMeter.Cipher
import Mathlib.Data.Nat.Notation

namespace CipherMeter

namespace OnBuffer

variable {α : Type}

theorem run_get_bind (f : Bytes → OnBuffer α) (buffer : Bytes) :
    (get >>= f).run buffer = (f buffer).run buffer := rfl

theorem run_ite (P : Prop) [Decidable P] (x y : OnBuffer α) (buffer : Bytes) :
    (if P then x else y).run buffer = if P then x.run buffer else y.run buffer := by
  split <;> rfl

end OnBuffer

namespace SizedCipher

variable {size : Aes.KeySize} (c : SizedCipher size) (iv : Nonce) (aad : Bytes)

/-- Encryption in place is encryption of what the buffer holds. -/
theorem run_encryptInPlace (buffer : Bytes) :
    (c.encryptInPlace iv aad).run buffer = match c.encrypt iv aad buffer with
      | .ok s => (.ok s.tag, s.ciphertext)
      | .error e => (.error e, buffer) := by
  rw [encryptInPlace, OnBuffer.run_get_bind, OnBuffer.run_ite, encrypt]
  split <;> rfl

/-- Decryption in place is decryption of what the buffer holds. -/
theorem run_decryptInPlace (tag buffer : Bytes) :
    (c.decryptInPlace iv aad tag).run buffer = match c.decrypt iv aad buffer tag with
      | .ok p => (.ok (), p)
      | .error e => (.error e, buffer) := by
  rw [decryptInPlace, OnBuffer.run_get_bind, OnBuffer.run_ite, decrypt]
  split
  · rfl
  · -- the buffer is written only after the comparison of the tags
    rw [OnBuffer.run_ite, Gcm.decrypt?]
    by_cases h : tag = (Gcm.tag (Aes.encryptBlock c.schedule) iv.bits aad buffer).val
    · rw [if_neg (not_not_intro h), if_pos h]
      rfl
    · rw [if_pos h, if_neg h]
      rfl

end SizedCipher

theorem Cipher.run_encryptInPlace_eq_ok_iff (c : Cipher) (iv : Nonce) (aad buffer a : Bytes)
    (tag : Tag) :
    (c.encryptInPlace iv aad).run buffer = (.ok tag, a) ↔
      c.encrypt iv aad buffer = .ok ⟨a, tag⟩ := by
  rw [encryptInPlace, SizedCipher.run_encryptInPlace, encrypt]
  cases c.sized.encrypt iv aad buffer with
  | ok s =>
    obtain ⟨a', tag'⟩ := s
    rw [Prod.mk.injEq, Except.ok.injEq, Except.ok.injEq, Sealed.mk.injEq, and_comm]
  | error e => exact ⟨fun h ↦ (nomatch h), fun h ↦ (nomatch h)⟩

end CipherMeter
