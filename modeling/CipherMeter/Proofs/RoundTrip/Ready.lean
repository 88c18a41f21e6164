import CipherMeter.Proofs.RoundTrip.Report

/-!
When a round trip gives a report.
-/

namespace CipherMeter.RoundTrip

open Run

/-- Settings in range, a key, a nonce and a plaintext that can be read and have the right lengths,
and times that can be summed up. -/
structure Ready (s : Settings) (w : World) (key nonce plaintext : Bytes) : Prop where
  one_le_iterations : 1 ≤ s.iterations
  iterations_le : s.iterations ≤ Sampler.maxIterations
  read_key : w.files.read s.keyPath = .ok key
  read_nonce : w.files.read s.noncePath = .ok nonce
  read_plaintext : w.files.read s.plaintextPath = .ok plaintext
  isSome_size : (Aes.KeySize.ofLength? key.length).isSome
  length_nonce : nonce.length = 12
  length_plaintext_le : plaintext.length ≤ Gcm.plaintextLimit
  encrypt_fits : Stats.Fits "encrypt" (w.laps s.iterations)
  decrypt_fits : Stats.Fits "decrypt" ((w.tick (2 * s.iterations)).laps s.iterations)

namespace Ready

variable {s : Settings} {w : World} {key nonce plaintext : Bytes}

theorem exists_course (h : Ready s w key nonce plaintext) (haad : s.aad.length ≤ Gcm.aadLimit) :
    ∃ c : Course s w, c.key = key ∧ c.plaintext = plaintext := by
  obtain ⟨size, hsize⟩ := Option.isSome_iff_exists.mp h.isSome_size
  have hkey : key.length = size.length := Aes.KeySize.ofLength?_eq_some_iff.mp hsize
  obtain ⟨encrypt, hencrypt⟩ := World.exists_summary h.one_le_iterations h.encrypt_fits
  obtain ⟨decrypt, hdecrypt⟩ := World.exists_summary h.one_le_iterations h.decrypt_fits
  let cipher : Cipher := ⟨size, ⟨⟨key, hkey⟩⟩⟩
  let iv : Nonce := ⟨nonce, h.length_nonce⟩
  have hiv : Nonce.ofBytes nonce = .ok iv := dif_pos h.length_nonce
  have hwhole : cipher.encrypt iv s.aad plaintext =
      .ok (Gcm.encrypt cipher.encipher iv.bits s.aad plaintext) :=
    (SizedCipher.encrypt_eq_ok_iff ..).mpr ⟨⟨h.length_plaintext_le, haad⟩, rfl⟩
  let c : Course s w :=
    { sampler := ⟨s.warmup, s.iterations, h.one_le_iterations⟩
      key, nonce, plaintext, cipher, iv, encrypt, decrypt
      whole := Gcm.encrypt cipher.encipher iv.bits s.aad plaintext
      sampler_eq := Sampler.make_eq_ok_iff.mpr ⟨h.iterations_le, rfl, rfl⟩
      read_key := h.read_key
      read_nonce := h.read_nonce
      read_plaintext := h.read_plaintext
      cipher_eq := Cipher.ofBytes_eq_ok hkey
      iv_eq := hiv
      whole_eq := hwhole
      encrypt_eq := hencrypt
      decrypt_eq := hdecrypt }
  exact ⟨c, rfl, rfl⟩

/-- With all else in place the associated data decide whether there is a report. -/
theorem exists_report_iff (h : Ready s w key nonce plaintext) :
    (∃ r w', inWorld (run s) w = (.ok r, w')) ↔ s.aad.length ≤ Gcm.aadLimit := by
  constructor
  · rintro ⟨r, w', hrun⟩
    obtain ⟨c, -, -⟩ := (inWorld_run_eq_ok_iff ..).mp hrun
    exact ((SizedCipher.encrypt_eq_ok_iff ..).mp c.whole_eq).1.2
  · intro haad
    obtain ⟨c, -, -⟩ := h.exists_course haad
    exact ⟨c.report, c.world, c.inWorld_run⟩

end Ready

end CipherMeter.RoundTrip
