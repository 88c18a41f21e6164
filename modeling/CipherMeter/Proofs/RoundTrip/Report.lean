import CipherMeter.Proofs.RoundTrip.Course

namespace CipherMeter

theorem Cipher.nameOf_eq (size : Aes.KeySize) :
    nameOf size = "AES-" ++ toString (8 * size.length) ++ "-GCM" := by
  cases size <;> decide

namespace RoundTrip

open Run

namespace Course

variable {s : Settings} {w : World} (c : Course s w)

theorem iterations_eq : c.sampler.iterations = s.iterations :=
  (Sampler.make_eq_ok_iff.mp c.sampler_eq).2.2

theorem size_length : c.cipher.size.length = c.key.length := by
  have hkey := Cipher.ofBytes_eq_ok_iff.mp c.cipher_eq
  rw [← hkey]
  exact c.cipher.sized.key.bytes.property.symm

theorem count_encrypt : c.encrypt.count = s.iterations := by
  rw [Stats.count_of_ofSamples c.encrypt_eq, World.length_laps, c.iterations_eq]

theorem count_decrypt : c.decrypt.count = s.iterations := by
  rw [Stats.count_of_ofSamples c.decrypt_eq, World.length_laps, c.iterations_eq]

/-- The answers are a matter of the key, the plaintext and the tampering. -/
theorem flags_eq : c.flags =
    (decide (s.tamper = true → c.plaintext ≠ [] ∧ c.cipher.encipher 0#128 = 0#128), !s.tamper) := by
  unfold flags given
  cases htamper : s.tamper with
  | false =>
    rw [if_neg Bool.false_ne_true, judge_of_encrypt _ _ _ _ c.whole_eq]
    simp
  | true =>
    rw [if_pos rfl]
    refine Prod.ext ?_ (judge_snd_of_ne _ _ _ _ c.whole_eq c.whole.tampered_ne)
    rw [Bool.eq_iff_iff, judge_fst_tampered_iff _ _ _ _ c.whole_eq]
    simp

theorem authenticated_iff : c.report.authenticated = true ↔
    (s.tamper = true → c.plaintext ≠ [] ∧ c.cipher.encipher 0#128 = 0#128) := by
  rw [report, c.flags_eq, decide_eq_true_iff]

theorem plaintextMatches_eq : c.report.plaintextMatches = !s.tamper := by
  rw [report, c.flags_eq]

theorem warned_iff : .plaintextNotReproduced ∈ c.opening ++ c.closing ↔
    c.report.authenticated = true ∧ s.tamper = true := by
  have hmatches : c.flags.2 = !s.tamper := c.plaintextMatches_eq
  have hopening : .plaintextNotReproduced ∉ c.opening := by simp [opening]
  rw [List.mem_append, or_iff_right hopening, closing, hmatches, Bool.not_not]
  have hreport : c.report.authenticated = c.flags.1 := rfl
  rw [hreport]
  cases c.flags.1 <;> cases s.tamper <;> simp

end Course

/-- What a report says of its settings, the key and the plaintext. -/
structure Report.Tells (r : Report) (s : Settings) (key plaintext : Bytes) (c : Cipher) : Prop where
  plaintextLength : r.plaintextLength = plaintext.length
  size : r.size.length = key.length
  name : Cipher.nameOf r.size = "AES-" ++ toString (8 * key.length) ++ "-GCM"
  count_encrypt : r.encrypt.count = s.iterations
  count_decrypt : r.decrypt.count = s.iterations
  untampered : s.tamper = false → r.authenticated = true ∧ r.plaintextMatches = true
  tampered : s.tamper = true → r.plaintextMatches = false ∧
    (r.authenticated = true ↔ plaintext ≠ [] ∧ c.encipher 0#128 = 0#128)

theorem Course.report_tells {s : Settings} {w : World} (c : Course s w) :
    c.report.Tells s c.key c.plaintext c.cipher where
  plaintextLength := rfl
  size := c.size_length
  name := by
    rw [← c.size_length]
    exact Cipher.nameOf_eq _
  count_encrypt := c.count_encrypt
  count_decrypt := c.count_decrypt
  untampered h := by
    rw [c.authenticated_iff, c.plaintextMatches_eq, h]
    exact ⟨fun h ↦ (nomatch h), rfl⟩
  tampered h := by
    rw [c.authenticated_iff, c.plaintextMatches_eq, h]
    exact ⟨rfl, fun h ↦ h rfl, fun h _ ↦ h⟩

/-- Every report tells the truth about its run, a warning is noted just if a
tampered text was verified, and nothing but the key, the plaintext and the
tampering decides the answers. -/
theorem report_of_run (s : Settings) (w w' : World) (r : Report)
    (h : inWorld (run s) w = (.ok r, w')) :
    ∃ (key nonce plaintext : Bytes) (c : Cipher),
      w.files.read s.keyPath = .ok key ∧ w.files.read s.noncePath = .ok nonce ∧
      w.files.read s.plaintextPath = .ok plaintext ∧ Cipher.ofBytes key = .ok c ∧
      r.Tells s key plaintext c ∧
      (∃ events, w'.journal = w.journal ++ events ∧
        (.plaintextNotReproduced ∈ events ↔ r.authenticated = true ∧ s.tamper = true)) ∧
      ∀ (s₂ : Settings) (w₂ w₂' : World) (r₂ : Report), inWorld (run s₂) w₂ = (.ok r₂, w₂') →
        w₂.files.read s₂.keyPath = .ok key → w₂.files.read s₂.plaintextPath = .ok plaintext →
        s₂.tamper = s.tamper →
        r₂.authenticated = r.authenticated ∧ r₂.plaintextMatches = r.plaintextMatches := by
  obtain ⟨c, rfl, rfl⟩ := (inWorld_run_eq_ok_iff ..).mp h
  refine ⟨c.key, c.nonce, c.plaintext, c.cipher, c.read_key, c.read_nonce, c.read_plaintext,
    c.cipher_eq, c.report_tells, ⟨_, rfl, c.warned_iff⟩, ?_⟩
  intro s₂ w₂ w₂' r₂ h₂ hkey hplaintext htamper
  obtain ⟨c₂, rfl, rfl⟩ := (inWorld_run_eq_ok_iff ..).mp h₂
  have hplaintext₂ : c₂.plaintext = c.plaintext :=
    Except.ok.inj (c₂.read_plaintext.symm.trans hplaintext)
  have hkey₂ : c₂.key = c.key := Except.ok.inj (c₂.read_key.symm.trans hkey)
  have hcipher₂ : c₂.cipher = c.cipher :=
    Except.ok.inj (c₂.cipher_eq.symm.trans (hkey₂ ▸ c.cipher_eq))
  constructor
  · rw [Bool.eq_iff_iff, c₂.authenticated_iff, c.authenticated_iff, htamper, hplaintext₂, hcipher₂]
  · rw [c₂.plaintextMatches_eq, c.plaintextMatches_eq, htamper]

/-- Files for a round trip of one byte, and a clock that stands still. -/
def stillWorld : World where
  files := ⟨[([Utf8.encode Inputs.keyName], .file (Bytes.zeros 16)),
    ([Utf8.encode Inputs.nonceName], .file (Bytes.zeros 12)),
    ([Utf8.encode Inputs.plaintextName], .file [0x61])], []⟩
  clock _ := .zero
  readings := 0
  generator := .ofSeed ⟨Bytes.zeros 32, rfl⟩
  journal := []

theorem report_of_run_stillWorld : ∃ (r : Report) (w : World),
    inWorld (run { tamper := true }) stillWorld = (.ok r, w) ∧ r.plaintextLength = 1 ∧
      r.size.length = 16 ∧ r.encrypt.count = 1 ∧ r.plaintextMatches = false := by
  have hkey : stillWorld.files.read (.ofString Inputs.keyName) = .ok (Bytes.zeros 16) := by
    decide +kernel
  have hplaintext : stillWorld.files.read (.ofString Inputs.plaintextName) = .ok [0x61] := by
    decide +kernel
  let cipher : Cipher := ⟨.aes128, ⟨⟨Bytes.zeros 16, rfl⟩⟩⟩
  have hcipher : Cipher.ofBytes (Bytes.zeros 16) = .ok cipher := Cipher.ofBytes_eq_ok rfl
  let c : Course { tamper := true } stillWorld :=
    { sampler := .single, key := Bytes.zeros 16, nonce := Bytes.zeros 12, plaintext := [0x61]
      cipher := cipher, iv := ⟨Bytes.zeros 12, rfl⟩
      whole := Gcm.encrypt cipher.encipher (Nonce.bits ⟨Bytes.zeros 12, rfl⟩) [] [0x61]
      encrypt := ⟨"encrypt", 1, .zero, .zero, .zero, .zero, .zero⟩
      decrypt := ⟨"decrypt", 1, .zero, .zero, .zero, .zero, .zero⟩
      sampler_eq := rfl
      read_key := hkey
      read_nonce := by decide +kernel
      read_plaintext := hplaintext
      cipher_eq := hcipher
      iv_eq := rfl
      whole_eq := (SizedCipher.encrypt_eq_ok_iff ..).mpr ⟨by decide, rfl⟩
      encrypt_eq := by decide +kernel
      decrypt_eq := by decide +kernel }
  obtain ⟨key, _, plaintext, _, hkey', _, hplaintext', _, htells, -, -⟩ :=
    report_of_run _ _ _ _ c.inWorld_run
  cases hkey.symm.trans hkey'
  cases hplaintext.symm.trans hplaintext'
  exact ⟨c.report, c.world, c.inWorld_run, htells.plaintextLength, htells.size,
    htells.count_encrypt, (htells.tampered rfl).1⟩

end RoundTrip

end CipherMeter
