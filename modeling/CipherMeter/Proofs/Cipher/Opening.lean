import CipherMeter.Cipher
import Mathlib.Logic.ExistsUnique
import Mathlib.Data.Nat.Notation

namespace CipherMeter

open Aes (KeySize)

theorem Aes.KeySize.exists_length {n : ℕ} (h : n = 16 ∨ n = 24 ∨ n = 32) :
    ∃ size : KeySize, n = size.length := by
  rcases h with h | h | h
  · exact ⟨.aes128, h⟩
  · exact ⟨.aes192, h⟩
  · exact ⟨.aes256, h⟩

namespace Gcm

variable (E : Block → Block) (iv : BitVec 96)

theorem cover_eq_iff (a b : Bytes) : cover E iv a = b ↔ a = cover E iv b := by
  constructor
  · rintro rfl
    exact (cover_cover E iv a).symm
  · rintro rfl
    exact cover_cover E iv b

theorem decrypt?_eq_some_iff (aad a t p : Bytes) :
    decrypt? E iv aad a t = some p ↔ ∃ h : t.length = 16, encrypt E iv aad p = ⟨a, ⟨t, h⟩⟩ := by
  unfold decrypt? encrypt
  constructor
  · intro h
    split at h
    · rename_i ht
      have hp := (cover_eq_iff E iv a p).mp (Option.some.inj h)
      refine ⟨ht ▸ (tag E iv aad a).property, ?_⟩
      simp only [← hp, Sealed.mk.injEq, true_and]
      exact Subtype.ext ht.symm
    · cases h
  · rintro ⟨hlen, h⟩
    obtain ⟨hp, ht⟩ := Sealed.mk.injEq .. ▸ h
    rw [hp] at ht
    rw [if_pos (congrArg Subtype.val ht).symm, (cover_eq_iff E iv a p).mpr hp.symm]

end Gcm

namespace SizedCipher

variable {size : KeySize} (c : SizedCipher size) (iv : Nonce) (aad : Bytes)

theorem encrypt_eq_ok_iff (p : Bytes) (s : Sealed) :
    c.encrypt iv aad p = .ok s ↔ (p.length ≤ Gcm.plaintextLimit ∧ aad.length ≤ Gcm.aadLimit) ∧
      Gcm.encrypt c.encipher iv.bits aad p = s := by
  unfold encrypt
  split
  · rename_i h
    exact ⟨fun h' ↦ (nomatch h'), fun h' ↦ by omega⟩
  · rename_i h
    refine ⟨fun h' ↦ ⟨by omega, Except.ok.inj h'⟩, fun h' ↦ ?_⟩
    exact congrArg Except.ok h'.2

theorem length_of_encrypt {p : Bytes} {s : Sealed} (h : c.encrypt iv aad p = .ok s) :
    s.ciphertext.length = p.length := by
  rw [← ((c.encrypt_eq_ok_iff ..).mp h).2]
  exact Gcm.length_cover ..

theorem decrypt_eq_ok_iff (a t p : Bytes) :
    c.decrypt iv aad a t = .ok p ↔
      (a.length ≤ Gcm.ciphertextLimit ∧ aad.length ≤ Gcm.aadLimit) ∧
        Gcm.decrypt? c.encipher iv.bits aad a t = some p := by
  unfold decrypt
  split
  · rename_i h
    exact ⟨fun h' ↦ (nomatch h'), fun h' ↦ by omega⟩
  · rename_i h
    have hE : Aes.encryptBlock c.schedule = c.encipher := rfl
    rw [hE, and_iff_right ⟨by omega, by omega⟩]
    cases Gcm.decrypt? c.encipher iv.bits aad a t with
    | none => exact ⟨fun h' ↦ (nomatch h'), fun h' ↦ (nomatch h')⟩
    | some q => simp only [Except.ok.injEq, Option.some.injEq]

theorem encrypt_of_decrypt {s : Sealed} {p : Bytes}
    (h : c.decrypt iv aad s.ciphertext s.tag.val = .ok p) :
    Gcm.encrypt c.encipher iv.bits aad p = s :=
  ((Gcm.decrypt?_eq_some_iff ..).mp ((c.decrypt_eq_ok_iff ..).mp h).2).2

theorem decrypt_total (a t : Bytes) :
    (∃ p, c.decrypt iv aad a t = .ok p) ∨
      c.decrypt iv aad a t = .error .authenticationFailure := by
  unfold decrypt
  split
  · exact .inr rfl
  · split
    · exact .inl ⟨_, rfl⟩
    · exact .inr rfl

theorem decrypt_eq_error_iff (a t : Bytes) (ha : a.length ≤ Gcm.ciphertextLimit)
    (haad : aad.length ≤ Gcm.aadLimit) :
    c.decrypt iv aad a t = .error .authenticationFailure ↔
      t ≠ (Gcm.tag c.encipher iv.bits aad a).val := by
  have hE : Aes.encryptBlock c.schedule = c.encipher := rfl
  rw [decrypt, if_neg (by omega), hE, Gcm.decrypt?]
  by_cases h : t = (Gcm.tag c.encipher iv.bits aad a).val
  · rw [if_pos h]
    exact ⟨fun h' ↦ (nomatch h'), fun h' ↦ absurd h h'⟩
  · rw [if_neg h]
    exact ⟨fun _ ↦ h, fun _ ↦ rfl⟩

end SizedCipher

/-- Decryption opens what encryption seals and nothing else. -/
structure OpensExactly (encrypt : Bytes → Except Fault Sealed)
    (decrypt : Bytes → Bytes → Except Fault Bytes) : Prop where
  decrypt_eq_ok_iff : ∀ a t p, a.length ≤ Gcm.plaintextLimit →
    (decrypt a t = .ok p ↔ ∃ h : t.length = 16, encrypt p = .ok ⟨a, ⟨t, h⟩⟩)
  decrypt_eq_error : ∀ a t, (∀ p, decrypt a t ≠ .ok p) → decrypt a t = .error .authenticationFailure
  decrypt_encrypt : ∀ p, p.length ≤ Gcm.plaintextLimit →
    ∃ s, encrypt p = .ok s ∧ s.ciphertext.length = p.length ∧
      decrypt s.ciphertext s.tag.val = .ok p
  existsUnique_tag : ∀ a, a.length ≤ Gcm.plaintextLimit → ∃! t, ∃ p, decrypt a t = .ok p

theorem SizedCipher.opensExactly {size : KeySize} (c : SizedCipher size) (iv : Nonce) (aad : Bytes)
    (haad : aad.length ≤ Gcm.aadLimit) :
    OpensExactly (c.encrypt iv aad) (c.decrypt iv aad) := by
  have hiff (a t p : Bytes) (ha : a.length ≤ Gcm.plaintextLimit) :
      c.decrypt iv aad a t = .ok p ↔
        ∃ h : t.length = 16, c.encrypt iv aad p = .ok ⟨a, ⟨t, h⟩⟩ := by
    have ha' : a.length ≤ Gcm.ciphertextLimit := Nat.le_trans ha (by decide)
    rw [decrypt_eq_ok_iff, and_iff_right ⟨ha', haad⟩, Gcm.decrypt?_eq_some_iff]
    constructor
    · rintro ⟨h, hs⟩
      have hlen := Gcm.length_cover c.encipher iv.bits p
      rw [show Gcm.cover c.encipher iv.bits p = a from congrArg Sealed.ciphertext hs] at hlen
      exact ⟨h, (encrypt_eq_ok_iff ..).mpr ⟨⟨hlen ▸ ha, haad⟩, hs⟩⟩
    · rintro ⟨h, hs⟩
      exact ⟨h, ((encrypt_eq_ok_iff ..).mp hs).2⟩
  refine ⟨hiff, fun a t h ↦ ?_, fun p hp ↦ ?_, fun a ha ↦ ?_⟩
  · exact (c.decrypt_total iv aad a t).resolve_left (fun ⟨p, hp⟩ ↦ h p hp)
  · let s := Gcm.encrypt c.encipher iv.bits aad p
    have hs : c.encrypt iv aad p = .ok s := (encrypt_eq_ok_iff ..).mpr ⟨⟨hp, haad⟩, rfl⟩
    have hlen := c.length_of_encrypt iv aad hs
    exact ⟨s, hs, hlen, (hiff _ _ p (hlen ▸ hp)).mpr ⟨s.tag.property, hs⟩⟩
  · let p := Gcm.cover c.encipher iv.bits a
    have hp : Gcm.cover c.encipher iv.bits p = a := Gcm.cover_cover ..
    have hlen : p.length = a.length := Gcm.length_cover ..
    refine ⟨(Gcm.tag c.encipher iv.bits aad a).val, ⟨p, ?_⟩, fun t ⟨q, hq⟩ ↦ ?_⟩
    · refine (hiff _ _ p ha).mpr ⟨(Gcm.tag ..).property, ?_⟩
      refine (encrypt_eq_ok_iff ..).mpr ⟨⟨hlen ▸ ha, haad⟩, ?_⟩
      rw [Gcm.encrypt, hp]
    · obtain ⟨h, hs⟩ := (hiff a t q ha).mp hq
      have hsealed := ((encrypt_eq_ok_iff ..).mp hs).2
      have hcover : Gcm.cover c.encipher iv.bits q = a := congrArg Sealed.ciphertext hsealed
      have htag := congrArg (fun s ↦ s.tag.val) hsealed
      rw [← hcover]
      exact htag.symm

namespace SizedCipher

variable {size : KeySize} (c : SizedCipher size) (iv : Nonce) (aad : Bytes) {p : Bytes} {s : Sealed}

theorem decrypt_of_encrypt (hs : c.encrypt iv aad p = .ok s) :
    c.decrypt iv aad s.ciphertext s.tag.val = .ok p := by
  obtain ⟨⟨hp, haad⟩, -⟩ := (c.encrypt_eq_ok_iff ..).mp hs
  obtain ⟨s', hs', -, hopen⟩ := (c.opensExactly iv aad haad).decrypt_encrypt p hp
  cases hs.symm.trans hs'
  exact hopen

theorem decrypt_of_tag_ne (hs : c.encrypt iv aad p = .ok s) {t : Bytes} (ht : t ≠ s.tag.val) :
    c.decrypt iv aad s.ciphertext t = .error .authenticationFailure := by
  obtain ⟨⟨hp, haad⟩, -⟩ := (c.encrypt_eq_ok_iff ..).mp hs
  have hlength := c.length_of_encrypt iv aad hs
  have hunique := (c.opensExactly iv aad haad).existsUnique_tag s.ciphertext (hlength ▸ hp)
  rcases c.decrypt_total iv aad s.ciphertext t with ⟨q, hq⟩ | h
  · exact absurd (hunique.unique ⟨q, hq⟩ ⟨p, c.decrypt_of_encrypt iv aad hs⟩) ht
  · exact h

end SizedCipher

theorem SizedCipher.ofBytes_eq_ok {size : KeySize} {key : Bytes} (h : key.length = size.length) :
    SizedCipher.ofBytes size key = .ok ⟨⟨key, h⟩⟩ := by
  rw [ofBytes, Secret.ofBytes, dif_pos h]
  rfl

namespace Cipher

theorem ofBytes_eq_ok {size : KeySize} {key : Bytes} (h : key.length = size.length) :
    ofBytes key = .ok ⟨size, ⟨⟨key, h⟩⟩⟩ := by
  unfold ofBytes
  have hsize := KeySize.ofLength?_eq_some_iff.mpr h
  split
  · rename_i size' h'
    cases hsize.symm.trans h'
    rfl
  · rename_i h'
    cases hsize.symm.trans h'

theorem ofBytes_eq_error {key : Bytes} (h : KeySize.ofLength? key.length = none) :
    ofBytes key = .error (.invalidKeyLength key.length) := by
  unfold ofBytes
  split
  · rename_i size h'
    cases h.symm.trans h'
  · rfl

theorem ofBytes_eq_ok_iff {key : Bytes} {c : Cipher} :
    ofBytes key = .ok c ↔ c.sized.key.toList = key := by
  constructor
  · intro h
    unfold ofBytes at h
    split at h
    · cases h
      rfl
    · cases h
  · rintro rfl
    exact ofBytes_eq_ok c.sized.key.bytes.property

/-- Both ciphers of a key open exactly what they seal, and they agree. -/
theorem opens_exactly_of_length (key : Bytes)
    (hkey : key.length = 16 ∨ key.length = 24 ∨ key.length = 32) :
    ∃ (c : Cipher) (k : SizedCipher c.size),
      ofBytes key = .ok c ∧ SizedCipher.ofBytes c.size key = .ok k ∧ c.size.length = key.length ∧
      (∀ iv aad p, k.encrypt iv aad p = c.encrypt iv aad p) ∧
      (∀ iv aad a t, k.decrypt iv aad a t = c.decrypt iv aad a t) ∧
      ∀ (iv : Nonce) (aad : Bytes), aad.length ≤ Gcm.aadLimit →
        OpensExactly (c.encrypt iv aad) (c.decrypt iv aad) := by
  obtain ⟨size, h⟩ := KeySize.exists_length hkey
  refine ⟨⟨size, ⟨⟨key, h⟩⟩⟩, ⟨⟨key, h⟩⟩, ofBytes_eq_ok h, SizedCipher.ofBytes_eq_ok h, h.symm,
    fun _ _ _ ↦ rfl, fun _ _ _ _ ↦ rfl, fun iv aad haad ↦ ?_⟩
  exact SizedCipher.opensExactly _ iv aad haad

theorem opens_exactly_zero_key :
    ∃ c : Cipher, ofBytes (Bytes.zeros 24) = .ok c ∧ c.size = .aes192 ∧
      ∀ (iv : Nonce) (aad : Bytes), aad.length ≤ Gcm.aadLimit →
        OpensExactly (c.encrypt iv aad) (c.decrypt iv aad) := by
  obtain ⟨c, k, hc, -, hsize, -, -, hopen⟩ :=
    opens_exactly_of_length (Bytes.zeros 24) (.inr (.inl rfl))
  refine ⟨c, hc, ?_, hopen⟩
  cases hs : c.size
  · rw [hs] at hsize
    cases hsize
  · rfl
  · rw [hs] at hsize
    cases hsize

end Cipher

end CipherMeter
