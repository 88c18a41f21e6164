import CipherMeter.Proofs.Cipher.Opening
import CipherMeter.Proofs.Gcm.Tag

namespace CipherMeter

theorem SizedCipher.decrypt_altered_iff {size : Aes.KeySize} (c : SizedCipher size) (iv : Nonce)
    {aad aad' p a' : Bytes} {s : Sealed} (hs : c.encrypt iv aad p = .ok s)
    (h : aad.DifferInBlock aad' ∧ s.ciphertext = a' ∨ aad = aad' ∧ s.ciphertext.DifferInBlock a') :
    c.decrypt iv aad' a' s.tag.val = .error .authenticationFailure ↔ c.encipher 0#128 ≠ 0#128 := by
  obtain ⟨⟨hp, haad⟩, hsealed⟩ := (encrypt_eq_ok_iff ..).mp hs
  have hlen := c.length_of_encrypt iv aad hs
  have hlen' : aad.length = aad'.length ∧ s.ciphertext.length = a'.length := by
    rcases h with ⟨h, ha⟩ | ⟨haad, h⟩
    · exact ⟨h.1, congrArg List.length ha⟩
    · exact ⟨congrArg List.length haad, h.1⟩
  have hlimit : a'.length ≤ Gcm.ciphertextLimit := by
    rw [← hlen'.2, hlen]
    exact hp.trans (by decide)
  have htag : s.tag = Gcm.tag c.encipher iv.bits aad s.ciphertext := by
    rw [← hsealed]
    rfl
  rw [decrypt_eq_error_iff c iv aad' a' _ hlimit (hlen'.1 ▸ haad), htag, Ne, ← Subtype.ext_iff,
    Gcm.tag_eq_iff_of_differ _ _ h]
  rfl

namespace Cipher

/-- A change inside one block of the associated data or of the ciphertext is
detected, unless the key enciphers zero to zero. -/
theorem decrypt_altered_iff_of_length (key : Bytes)
    (hkey : key.length = 16 ∨ key.length = 24 ∨ key.length = 32) :
    ∃ c, ofBytes key = .ok c ∧ ∀ (iv : Nonce) (aad aad' p a' : Bytes) (s : Sealed),
      c.encrypt iv aad p = .ok s →
      (aad.DifferInBlock aad' ∧ s.ciphertext = a' ∨
        aad = aad' ∧ s.ciphertext.DifferInBlock a') →
      (c.decrypt iv aad' a' s.tag.val = .error .authenticationFailure ↔
        c.encipher 0#128 ≠ 0#128) := by
  obtain ⟨size, h⟩ := Aes.KeySize.exists_length hkey
  refine ⟨_, ofBytes_eq_ok h, fun iv aad aad' p a' s hs halt ↦ ?_⟩
  exact SizedCipher.decrypt_altered_iff _ iv hs halt

theorem decrypt_altered_zero_key :
    ∃ (c : Cipher) (s : Sealed), ofBytes (Bytes.zeros 16) = .ok c ∧
      c.encrypt ⟨Bytes.zeros 12, rfl⟩ (Bytes.zeros 17) [0x61] = .ok s ∧
      (Bytes.zeros 17).DifferInBlock ((Bytes.zeros 17).set 16 1) ∧
      (c.decrypt ⟨Bytes.zeros 12, rfl⟩ ((Bytes.zeros 17).set 16 1) s.ciphertext s.tag.val =
        .error .authenticationFailure ↔ c.encipher 0#128 ≠ 0#128) := by
  obtain ⟨c, hc, haltered⟩ := decrypt_altered_iff_of_length (Bytes.zeros 16) (.inl rfl)
  have hdiffer := Bytes.differInBlock_set (Bytes.zeros 17) 16 1 (by decide) (by decide)
  have hs := (SizedCipher.encrypt_eq_ok_iff c.sized ⟨Bytes.zeros 12, rfl⟩ (Bytes.zeros 17)
    [0x61] _).mpr ⟨by decide, rfl⟩
  exact ⟨c, _, hc, hs, hdiffer, haltered _ _ _ _ _ _ hs (.inl ⟨hdiffer, rfl⟩)⟩

end Cipher

end CipherMeter
