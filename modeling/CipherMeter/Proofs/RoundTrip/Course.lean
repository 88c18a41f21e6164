import CipherMeter.Proofs.RoundTrip.Judgement
import CipherMeter.Proofs.Sampling

namespace CipherMeter.RoundTrip

open Run

/-- What a round trip that ends with a report reads and computes on its way. -/
structure Course (s : Settings) (w : World) where
  sampler : Sampler
  key : Bytes
  nonce : Bytes
  plaintext : Bytes
  cipher : Cipher
  iv : Nonce
  whole : Sealed
  encrypt : Stats
  decrypt : Stats
  sampler_eq : s.sampler = .ok sampler
  read_key : w.files.read s.keyPath = .ok key
  read_nonce : w.files.read s.noncePath = .ok nonce
  read_plaintext : w.files.read s.plaintextPath = .ok plaintext
  cipher_eq : Cipher.ofBytes key = .ok cipher
  iv_eq : Nonce.ofBytes nonce = .ok iv
  whole_eq : cipher.encrypt iv s.aad plaintext = .ok whole
  encrypt_eq : Stats.ofSamples "encrypt" (w.laps sampler.iterations) = .ok encrypt
  decrypt_eq :
    Stats.ofSamples "decrypt" ((w.tick (2 * sampler.iterations)).laps sampler.iterations) =
      .ok decrypt

namespace Course

variable {s : Settings} {w : World} (c : Course s w)

/-- The sealed text that is decrypted. -/
def given : Sealed := if s.tamper then c.whole.tampered else c.whole

/-- The two answers of the report. -/
def flags : Bool × Bool := judge c.cipher c.iv s.aad c.plaintext c.given

def report : Report :=
  ⟨c.cipher.size, c.plaintext.length, c.encrypt, c.decrypt, c.flags.1, c.flags.2⟩

/-- What is noted down before the transforms. -/
def opening : List Event := [.inputLoaded s.keyPath c.key.length,
  .inputLoaded s.noncePath c.nonce.length, .inputLoaded s.plaintextPath c.plaintext.length,
  .roundTripStarted c.cipher.size c.plaintext.length]

/-- What is noted down after the transforms. -/
def closing : List Event := (if c.flags.1 && !c.flags.2 then [.plaintextNotReproduced] else []) ++
  [.roundTripDone c.cipher.size c.plaintext.length c.encrypt.median c.decrypt.median c.flags.1]

/-- The world at the end. -/
def world : World := (w.tick (4 * c.sampler.iterations)).note (c.opening ++ c.closing)

theorem inWorld_run : inWorld (run s) w = (.ok c.report, c.world) := by
  let w₁ := w.note [.inputLoaded s.keyPath c.key.length]
  let w₂ := w₁.note [.inputLoaded s.noncePath c.nonce.length]
  let w₃ := w₂.note [.inputLoaded s.plaintextPath c.plaintext.length]
  have hstarted : w₃.note [.roundTripStarted c.cipher.size c.plaintext.length] =
      w.note c.opening := by simp [w₃, w₂, w₁, opening]
  rw [run, inWorld_bind_of_ok _ (inWorld_orFault_of_ok w c.sampler_eq),
    inWorld_bind_of_ok _ (inWorld_read_of_ok w c.read_key),
    inWorld_bind_of_ok _ (inWorld_read_of_ok w₁ c.read_nonce),
    inWorld_bind_of_ok _ (inWorld_read_of_ok w₂ c.read_plaintext),
    inWorld_bind_of_ok _ (inWorld_orFault_of_ok w₃ c.cipher_eq),
    inWorld_bind_of_ok _ (inWorld_orFault_of_ok w₃ c.iv_eq),
    inWorld_bind_of_ok _ (inWorld_record w₃ _), hstarted]
  -- every round of encryption starts from the plaintext, and the last one leaves `whole`
  have hencrypt := (c.sampler.inWorld_runWithSetup_evaluate_eq_ok_iff "encrypt" c.plaintext
    (fun buffer ↦ (c.cipher.encryptInPlace c.iv s.aad).run buffer) (w.note c.opening) _ _
    c.encrypt).mpr ⟨rfl, by simpa using c.encrypt_eq, rfl⟩
  rw [inWorld_bind_of_ok _ hencrypt,
    (Cipher.run_encryptInPlace_eq_ok_iff _ _ _ _ _ c.whole.tag).mpr c.whole_eq]
  dsimp only
  have hgiven : (if s.tamper = true then Sealed.tampered ⟨c.whole.ciphertext, c.whole.tag⟩
      else ⟨c.whole.ciphertext, c.whole.tag⟩) = c.given := rfl
  rw [inWorld_bind_of_ok _ (inWorld_orFault_of_ok _ rfl), hgiven]
  -- likewise every round of decryption starts from what is given
  obtain ⟨⟨verified, decrypted⟩, hrun⟩ : ∃ result,
      (c.cipher.decryptInPlace c.iv s.aad c.given.tag.val).run c.given.ciphertext = result :=
    ⟨_, rfl⟩
  have hdecrypt := (c.sampler.inWorld_runWithSetup_evaluate_eq_ok_iff "decrypt" c.given.ciphertext
    (fun buffer ↦ (c.cipher.decryptInPlace c.iv s.aad c.given.tag.val).run buffer)
    ((w.note c.opening).tick (2 * c.sampler.iterations)) _ _ c.decrypt).mpr
    ⟨hrun.symm, by simpa using c.decrypt_eq, rfl⟩
  rw [inWorld_bind_of_ok _ hdecrypt]
  dsimp only
  have hverdict : verdict c.plaintext verified decrypted = .ok c.flags := by
    have h := verdict_decryptInPlace c.cipher c.iv s.aad c.plaintext c.given
    rw [hrun] at h
    exact h
  rw [inWorld_bind_of_ok _ (inWorld_orFault_of_ok _ hverdict)]
  have hticks : 4 * c.sampler.iterations = 2 * c.sampler.iterations + 2 * c.sampler.iterations := by
    omega
  rw [world, closing, hticks]
  split
  · rw [inWorld_bind_of_ok _ (inWorld_record _ _), inWorld_bind_of_ok _ (inWorld_record _ _)]
    simp [report]
  · rw [inWorld_bind_of_ok _ (inWorld_record _ _)]
    simp [report]

end Course

/-- A round trip gives a report just if it has a course, and the report is that of the course. -/
theorem inWorld_run_eq_ok_iff (s : Settings) (w w' : World) (r : Report) :
    inWorld (run s) w = (.ok r, w') ↔ ∃ c : Course s w, r = c.report ∧ w' = c.world := by
  constructor
  · intro h
    have hrun := h
    simp only [run, inWorld_bind_eq_ok_iff, inWorld_orFault_eq_ok_iff, inWorld_read_eq_ok_iff,
      inWorld_record] at h
    obtain ⟨sampler, _, ⟨hsampler, rfl⟩, key, _, ⟨hkey, rfl⟩, nonce, _, ⟨hnonce, rfl⟩,
      plaintext, _, ⟨hplaintext, rfl⟩, cipher, _, ⟨hcipher, rfl⟩, iv, _, ⟨hiv, rfl⟩,
      _, _, hstarted, ⟨⟨sealing, ciphertext⟩, encrypt⟩, w₁, hencrypt, h⟩ := h
    cases hstarted
    rw [Sampler.inWorld_runWithSetup_evaluate_eq_ok_iff] at hencrypt
    obtain ⟨hsealing, hencrypt, rfl⟩ := hencrypt
    dsimp only at h
    simp only [inWorld_bind_eq_ok_iff, inWorld_orFault_eq_ok_iff] at h
    obtain ⟨tag, _, ⟨rfl, rfl⟩, ⟨⟨verified, decrypted⟩, decrypt⟩, w₂, hdecrypt, -⟩ := h
    rw [Sampler.inWorld_runWithSetup_evaluate_eq_ok_iff] at hdecrypt
    obtain ⟨-, hdecrypt, -⟩ := hdecrypt
    have hwhole : cipher.encrypt iv s.aad plaintext = .ok ⟨ciphertext, tag⟩ :=
      (Cipher.run_encryptInPlace_eq_ok_iff ..).mp hsealing.symm
    let c : Course s _ := ⟨sampler, key, nonce, plaintext, cipher, iv, _, encrypt, decrypt,
      hsampler, hkey, hnonce, hplaintext, hcipher, hiv, hwhole, by simpa using hencrypt,
      by simpa using hdecrypt⟩
    have heq := hrun.symm.trans c.inWorld_run
    exact ⟨c, Except.ok.inj (congrArg Prod.fst heq), congrArg Prod.snd heq⟩
  · rintro ⟨c, rfl, rfl⟩
    exact c.inWorld_run

end CipherMeter.RoundTrip
