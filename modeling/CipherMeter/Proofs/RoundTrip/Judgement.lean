import CipherMeter.Proofs.Cipher.InPlace
import CipherMeter.Proofs.Cipher.Tampering
import CipherMeter.RoundTrip

namespace CipherMeter

theorem Bytes.xor_one_ne (b : UInt8) : b ^^^ 1 ≠ b := by
  intro h
  have hzero : b ^^^ (b ^^^ 1) = 0 := by rw [h, UInt8.xor_self]
  rw [← UInt8.xor_assoc, UInt8.xor_self, UInt8.zero_xor] at hzero
  exact absurd hzero (by decide)

theorem Sealed.tampered_ne (s : Sealed) : s.tampered ≠ s := by
  intro h
  unfold tampered at h
  split at h
  · rename_i b r hs
    have hciphertext := congrArg Sealed.ciphertext h
    rw [hs] at hciphertext
    exact Bytes.xor_one_ne b (List.cons.inj hciphertext).1
  · have htag := congrArg (fun s ↦ s.tag.val) h
    dsimp only at htag
    cases ht : s.tag.val with
    | nil =>
      have hlen := s.tag.property
      rw [ht] at hlen
      cases hlen
    | cons b r =>
      rw [ht] at htag
      exact Bytes.xor_one_ne b (List.cons.inj htag).1

namespace RoundTrip

/-- Whether decryption verifies the tag of a sealed text, and whether it then
gives the plaintext. -/
def judge (c : Cipher) (iv : Nonce) (aad plaintext : Bytes) (s : Sealed) : Bool × Bool :=
  match c.decrypt iv aad s.ciphertext s.tag.val with
  | .ok p => (true, p = plaintext)
  | .error _ => (false, false)

variable (c : Cipher) (iv : Nonce) (aad p : Bytes) {s : Sealed}

theorem verdict_decryptInPlace (s : Sealed) :
    verdict p ((c.decryptInPlace iv aad s.tag.val).run s.ciphertext).1
      ((c.decryptInPlace iv aad s.tag.val).run s.ciphertext).2 = .ok (judge c iv aad p s) := by
  rw [Cipher.decryptInPlace, SizedCipher.run_decryptInPlace, judge, Cipher.decrypt]
  rcases c.sized.decrypt_total iv aad s.ciphertext s.tag.val with ⟨q, h⟩ | h
  · rw [h]
    rfl
  · rw [h]
    rfl

theorem judge_fst_iff (s : Sealed) :
    (judge c iv aad p s).1 = true ↔ ∃ q, c.decrypt iv aad s.ciphertext s.tag.val = .ok q := by
  unfold judge
  cases c.decrypt iv aad s.ciphertext s.tag.val <;> simp

theorem judge_snd_iff (s : Sealed) :
    (judge c iv aad p s).2 = true ↔ c.decrypt iv aad s.ciphertext s.tag.val = .ok p := by
  unfold judge
  cases c.decrypt iv aad s.ciphertext s.tag.val <;> simp

theorem judge_of_encrypt (hs : c.encrypt iv aad p = .ok s) :
    judge c iv aad p s = (true, true) := by
  have hopen := c.sized.decrypt_of_encrypt iv aad hs
  exact Prod.ext ((judge_fst_iff ..).mpr ⟨p, hopen⟩) ((judge_snd_iff ..).mpr hopen)

/-- No other sealed text opens to the plaintext. -/
theorem judge_snd_of_ne {t : Sealed} (hs : c.encrypt iv aad p = .ok s) (hne : t ≠ s) :
    (judge c iv aad p t).2 = false := by
  rw [← Bool.not_eq_true, judge_snd_iff]
  intro h
  have hsealed := ((SizedCipher.encrypt_eq_ok_iff ..).mp hs).2
  exact hne ((c.sized.encrypt_of_decrypt iv aad h).symm.trans hsealed)

theorem judge_fst_tampered_of_nil (hs : c.encrypt iv aad p = .ok s) (ha : s.ciphertext = []) :
    (judge c iv aad p s.tampered).1 ≠ true := by
  intro h
  obtain ⟨q, hq⟩ := (judge_fst_iff ..).mp h
  have hp : p.length = 0 := by rw [← c.sized.length_of_encrypt iv aad hs, ha, List.length_nil]
  have htampered : s.tampered.ciphertext = [] := by rw [Sealed.tampered, ha]
  -- only the empty text has an empty ciphertext, and that has a single tag
  have hsealed := c.sized.encrypt_of_decrypt iv aad hq
  have hq' : q.length = 0 := by
    have hcover := congrArg (fun s ↦ s.ciphertext.length) hsealed
    rw [← Gcm.length_cover c.sized.encipher iv.bits q]
    exact hcover.trans (congrArg List.length htampered)
  have hqp : q = p := by
    rw [List.eq_nil_of_length_eq_zero hq', List.eq_nil_of_length_eq_zero hp]
  have hmatch : (judge c iv aad p s.tampered).2 = true := (judge_snd_iff ..).mpr (hqp ▸ hq)
  rw [judge_snd_of_ne c iv aad p hs s.tampered_ne] at hmatch
  cases hmatch

theorem judge_fst_tampered_of_cons (hs : c.encrypt iv aad p = .ok s) {b : UInt8} {r : Bytes}
    (ha : s.ciphertext = b :: r) :
    (judge c iv aad p s.tampered).1 = true ↔ c.encipher 0#128 = 0#128 := by
  have htampered : s.tampered = ⟨s.ciphertext.set 0 (b ^^^ 1), s.tag⟩ := by
    rw [Sealed.tampered, ha]
    rfl
  have hdiffer : s.ciphertext.DifferInBlock (s.ciphertext.set 0 (b ^^^ 1)) := by
    rw [ha]
    exact Bytes.differInBlock_set _ 0 _ (Nat.succ_pos _) (Bytes.xor_one_ne b)
  have haltered := c.sized.decrypt_altered_iff iv hs (.inr ⟨rfl, hdiffer⟩)
  rw [judge_fst_iff, htampered]
  rcases c.sized.decrypt_total iv aad (s.ciphertext.set 0 (b ^^^ 1)) s.tag.val with ⟨q, hq⟩ | h
  · refine ⟨fun _ ↦ not_not.mp fun hzero ↦ ?_, fun _ ↦ ⟨q, hq⟩⟩
    cases hq.symm.trans (haltered.mpr hzero)
  · refine ⟨fun ⟨q, hq⟩ ↦ ?_, fun hzero ↦ absurd hzero (haltered.mp h)⟩
    cases h.symm.trans hq

/-- A changed tag of an empty ciphertext is always refused, a changed ciphertext
unless the key enciphers zero to zero. -/
theorem judge_fst_tampered_iff (hs : c.encrypt iv aad p = .ok s) :
    (judge c iv aad p s.tampered).1 = true ↔ p ≠ [] ∧ c.encipher 0#128 = 0#128 := by
  have hlen := c.sized.length_of_encrypt iv aad hs
  cases ha : s.ciphertext with
  | nil =>
    rw [ha] at hlen
    have hp : p = [] := List.eq_nil_of_length_eq_zero hlen.symm
    have hrefused := judge_fst_tampered_of_nil c iv aad p hs ha
    exact ⟨fun h ↦ absurd h hrefused, fun h ↦ absurd hp h.1⟩
  | cons b r =>
    have hp : p ≠ [] := by
      rintro rfl
      rw [ha] at hlen
      cases hlen
    rw [and_iff_right hp, judge_fst_tampered_of_cons c iv aad p hs ha]

end RoundTrip

end CipherMeter
