import CipherMeter.Proofs.Generator
import CipherMeter.Proofs.Inputs.Feeding

/-!
Inputs that are generated from a seed: what the files hold is the stream of the seed from its
beginning.
-/

namespace CipherMeter.Inputs

open Run

/-- A key of a whole number of words, a nonce and a plaintext use up the stream without gaps. -/
theorem drawn_append_eq_stream (seed : Seed) {keySize : ℕ} (h : 4 ∣ keySize) (plaintextSize : ℕ) :
    ((Generator.ofSeed seed).draw keySize).1 ++ (((Generator.ofSeed seed).draw keySize).2.draw 12).1
        ++ ((((Generator.ofSeed seed).draw keySize).2.draw 12).2.draw plaintextSize).1 =
      Generator.stream seed (keySize + 12 + plaintextSize) := by
  have hnonce : 4 ∣ keySize + 12 := h.add (by decide)
  have hkey := Generator.draw_add (.ofSeed seed) h 12
  rw [Generator.stream_eq_draw, Generator.draw_add _ hnonce, hkey]

theorem four_dvd_of_isSome {n : ℕ} (h : (Aes.KeySize.ofLength? n).isSome) : 4 ∣ n := by
  obtain ⟨size, hsize⟩ := Option.isSome_iff_exists.mp h
  rw [Aes.KeySize.ofLength?_eq_some_iff.mp hsize]
  cases size <;> decide

/-- The files that are generated from a seed hold its stream from the beginning, the key first, then
the nonce and the plaintext, without a byte left out. So the key and the nonce are the same for
every plaintext, and a shorter plaintext is the beginning of a longer one. -/
theorem generated_from_stream (seed : Seed) (dir : Path) (keySize plaintextSize memory : ℕ)
    (w w' : World) (paths : Paths) (h : inWorld (generate dir keySize plaintextSize memory)
      (w.withGenerator (.ofSeed seed)) = (.ok paths, w')) :
    ∃ key nonce plaintext, Usable w'.files paths key nonce plaintext ∧ paths = .inDirectory dir ∧
      key.length = keySize ∧ plaintext.length = plaintextSize ∧
      key ++ nonce ++ plaintext = Generator.stream seed (keySize + 12 + plaintextSize) ∧
      ∀ (dir₂ : Path) (plaintextSize₂ memory₂ : ℕ) (w₂ w₂' : World) (paths₂ : Paths),
        inWorld (generate dir₂ keySize plaintextSize₂ memory₂) (w₂.withGenerator (.ofSeed seed)) =
            (.ok paths₂, w₂') →
          ∃ plaintext₂, Usable w₂'.files paths₂ key nonce plaintext₂ ∧
            plaintext₂.length = plaintextSize₂ ∧
            (plaintextSize ≤ plaintextSize₂ → plaintext <+: plaintext₂) := by
  have husable := usable_of_generate h
  have hwords : 4 ∣ keySize := by
    have hsize := husable.isSome_size
    rw [Generator.length_draw] at hsize
    exact four_dvd_of_isSome hsize
  refine ⟨_, _, _, husable, ?_, Generator.length_draw .., Generator.length_draw ..,
    drawn_append_eq_stream seed hwords plaintextSize, ?_⟩
  · have heffect := effect_generate dir keySize plaintextSize memory
      (w.withGenerator (.ofSeed seed))
    rw [h] at heffect
    exact heffect.1
  · intro dir₂ plaintextSize₂ memory₂ w₂ w₂' paths₂ h₂
    have husable₂ := usable_of_generate h₂
    refine ⟨_, husable₂, Generator.length_draw .., fun hle ↦ ?_⟩
    rw [← Generator.take_draw _ hle]
    exact List.take_prefix ..

/-- A directory, and a generator that starts from a seed of ones. -/
def seededWorld : World :=
  (World.still ⟨[([[0x64]], .directory)], []⟩).withGenerator (.ofSeed ⟨List.replicate 32 1, rfl⟩)

/-- From one seed first three bytes of plaintext are generated and then five, elsewhere. -/
theorem generated_from_stream_seededWorld : ∃ w₁ w₂ key nonce plaintext plaintext₂,
    inWorld (generate (.ofString "d") 24 3) seededWorld =
        (.ok (.inDirectory (.ofString "d")), w₁) ∧
      inWorld (generate (.ofString ".") 24 5) seededWorld =
        (.ok (.inDirectory (.ofString ".")), w₂) ∧
      key ++ nonce ++ plaintext = Generator.stream ⟨List.replicate 32 1, rfl⟩ 39 ∧
      Usable w₁.files (.inDirectory (.ofString "d")) key nonce plaintext ∧
      Usable w₂.files (.inDirectory (.ofString ".")) key nonce plaintext₂ ∧
      plaintext.length = 3 ∧ plaintext₂.length = 5 ∧ plaintext <+: plaintext₂ := by
  have hends {dir : Path} {n : ℕ}
      (h : (inWorld (generate dir 24 n) seededWorld).1 = .ok (.inDirectory dir)) :
      ∃ w', inWorld (generate dir 24 n) seededWorld = (.ok (.inDirectory dir), w') :=
    ⟨_, Prod.ext h rfl⟩
  obtain ⟨w₁, hrun₁⟩ := @hends (.ofString "d") 3 (by decide +kernel)
  obtain ⟨w₂, hrun₂⟩ := @hends (.ofString ".") 5 (by decide +kernel)
  obtain ⟨key, nonce, plaintext, husable, -, -, hlength, hstream, hother⟩ :=
    generated_from_stream _ _ _ _ _ _ _ _ hrun₁
  obtain ⟨plaintext₂, husable₂, hlength₂, hle⟩ := hother _ _ _ _ _ _ hrun₂
  exact ⟨w₁, w₂, key, nonce, plaintext, plaintext₂, hrun₁, hrun₂, hstream, husable, husable₂,
    hlength, hlength₂, hle (by decide)⟩

end CipherMeter.Inputs
