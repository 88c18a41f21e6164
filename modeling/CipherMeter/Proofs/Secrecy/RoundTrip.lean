import CipherMeter.Proofs.RoundTrip.Judgement
import CipherMeter.Proofs.Secrecy.Relation

namespace CipherMeter

open Run

theorem Nonce.liftRel_ofBytes {a₁ a₂ : Bytes} (h : a₁.length = a₂.length) :
    Except.LiftRel (fun _ _ ↦ True) (ofBytes a₁) (ofBytes a₂) := by
  unfold ofBytes
  by_cases h₁ : a₁.length = 12
  · rw [dif_pos h₁, dif_pos (h ▸ h₁)]
    exact .ok trivial
  · rw [dif_neg h₁, dif_neg (h ▸ h₁), h]
    exact .error _

namespace Cipher

/-- The length of a key decides whether there is a cipher, and of which size. -/
theorem liftRel_ofBytes {k₁ k₂ : Bytes} (h : k₁.length = k₂.length) :
    Except.LiftRel (fun c₁ c₂ : Cipher ↦ c₁.size = c₂.size) (ofBytes k₁) (ofBytes k₂) := by
  cases hsize : Aes.KeySize.ofLength? k₁.length with
  | none =>
    rw [ofBytes_eq_error hsize, ofBytes_eq_error (h ▸ hsize), h]
    exact .error _
  | some size =>
    have h₁ := Aes.KeySize.ofLength?_eq_some_iff.mp hsize
    rw [ofBytes_eq_ok h₁, ofBytes_eq_ok (h ▸ h₁)]
    exact .ok rfl

/-- The length of a plaintext decides whether it is encrypted. -/
theorem liftRel_encryptInPlace (c₁ c₂ : Cipher) (iv₁ iv₂ : Nonce) {aad₁ aad₂ p₁ p₂ : Bytes}
    (haad₁ : aad₁.length ≤ Gcm.aadLimit) (haad₂ : aad₂.length ≤ Gcm.aadLimit)
    (hlength : p₁.length = p₂.length) :
    Except.LiftRel
      (fun t₁ t₂ ↦
        c₁.encrypt iv₁ aad₁ p₁ = .ok ⟨((c₁.encryptInPlace iv₁ aad₁).run p₁).2, t₁⟩ ∧
        c₂.encrypt iv₂ aad₂ p₂ = .ok ⟨((c₂.encryptInPlace iv₂ aad₂).run p₂).2, t₂⟩)
      ((c₁.encryptInPlace iv₁ aad₁).run p₁).1 ((c₂.encryptInPlace iv₂ aad₂).run p₂).1 := by
  simp only [encryptInPlace, SizedCipher.run_encryptInPlace, encrypt]
  rcases Nat.lt_or_ge Gcm.plaintextLimit p₁.length with hlong | hfits
  · rw [SizedCipher.encrypt, if_pos (.inl hlong), SizedCipher.encrypt,
      if_pos (.inl (hlength ▸ hlong)), hlength]
    exact .error _
  · have h₁ := (c₁.sized.encrypt_eq_ok_iff iv₁ aad₁ p₁ _).mpr ⟨⟨hfits, haad₁⟩, rfl⟩
    have h₂ := (c₂.sized.encrypt_eq_ok_iff iv₂ aad₂ p₂ _).mpr ⟨⟨hlength ▸ hfits, haad₂⟩, rfl⟩
    rw [h₁, h₂]
    exact .ok ⟨rfl, rfl⟩

end Cipher

namespace RoundTrip

def Report.untimed (r : Report) : Report :=
  { r with encrypt := r.encrypt.untimed, decrypt := r.decrypt.untimed }

theorem verdict_of_encrypt (c : Cipher) (iv : Nonce) (aad p : Bytes) {s : Sealed}
    (hs : c.encrypt iv aad p = .ok s) {verified : Except Fault Unit} {decrypted : Bytes}
    (hrun : (verified, decrypted) = (c.decryptInPlace iv aad s.tag.val).run s.ciphertext) :
    verdict p verified decrypted = .ok (true, true) := by
  have hverdict := verdict_decryptInPlace c iv aad p s
  rw [← hrun, judge_of_encrypt c iv aad p hs] at hverdict
  exact hverdict

/-- Round trips that read files of the same lengths, and authenticate data of their own, tell the
same of them. -/
theorem related_run {T : Prop} {s₁ s₂ : Settings} (hsettings : s₁ = { s₂ with aad := s₁.aad })
    (htamper : s₂.tamper = false) (haad₁ : s₁.aad.length ≤ Gcm.aadLimit)
    (haad₂ : s₂.aad.length ≤ Gcm.aadLimit) :
    Related T (Same T Report.untimed) (run s₁) (run s₂) := by
  generalize s₁.aad = aad₁ at hsettings haad₁
  subst hsettings
  refine (Related.orFault (.refl (R := Eq) (fun _ ↦ rfl) s₂.sampler)).bind ?_
  rintro sampler _ rfl
  refine (Related.read s₂.keyPath).bind fun key₁ key₂ hkey ↦ ?_
  refine (Related.read s₂.noncePath).bind fun nonce₁ nonce₂ hnonce ↦ ?_
  refine (Related.read s₂.plaintextPath).bind fun p₁ p₂ hlength ↦ ?_
  refine (Related.orFault (Cipher.liftRel_ofBytes hkey)).bind fun c₁ c₂ hsize ↦ ?_
  refine (Related.orFault (Nonce.liftRel_ofBytes hnonce)).bind fun iv₁ iv₂ _ ↦ ?_
  refine (Related.record ?_).bind fun _ _ _ ↦ ?_
  · rw [hsize, hlength]
    exact .refl ..
  refine Related.bind (Related.runWithSetup sampler "encrypt" p₁ p₂ _ _) ?_
  rintro ⟨⟨sealing₁, a₁⟩, encrypt₁⟩ ⟨⟨sealing₂, a₂⟩, encrypt₂⟩ ⟨hseal₁, hseal₂, hencrypt⟩
  dsimp only at hseal₁ hseal₂ hencrypt ⊢
  have hsealing := Cipher.liftRel_encryptInPlace c₁ c₂ iv₁ iv₂ haad₁ haad₂ hlength
  rw [← hseal₁, ← hseal₂] at hsealing
  refine (Related.orFault hsealing).bind fun tag₁ tag₂ ⟨hwhole₁, hwhole₂⟩ ↦ ?_
  simp only [htamper, Bool.false_eq_true, if_false]
  refine Related.bind (Related.runWithSetup sampler "decrypt" a₁ a₂ _ _) ?_
  rintro ⟨⟨verified₁, b₁⟩, decrypt₁⟩ ⟨⟨verified₂, b₂⟩, decrypt₂⟩ ⟨hopen₁, hopen₂, hdecrypt⟩
  dsimp only at hopen₁ hopen₂ hdecrypt ⊢
  -- what is decrypted is what was sealed, so that the answers are the same whatever the secrets
  rw [verdict_of_encrypt c₁ iv₁ aad₁ p₁ hwhole₁ hopen₁,
    verdict_of_encrypt c₂ iv₂ s₂.aad p₂ hwhole₂ hopen₂]
  refine (Related.orFault (.ok (R := fun x y ↦ x = (true, true) ∧ y = (true, true))
    ⟨rfl, rfl⟩)).bind ?_
  rintro _ _ ⟨rfl, rfl⟩
  simp only [Bool.not_true, Bool.and_false, Bool.false_eq_true, if_false]
  rw [hsize, hlength]
  refine Related.bind (Related.record ⟨rfl, fun hT ↦ ?_⟩) fun _ _ _ ↦ ?_
  · rw [hencrypt.2 hT, hdecrypt.2 hT]
  · refine Related.pure ⟨?_, fun hT ↦ ?_⟩
    · rw [Report.untimed, Report.untimed, hencrypt.1, hdecrypt.1]
    · rw [hencrypt.2 hT, hdecrypt.2 hT]

end RoundTrip

end CipherMeter
