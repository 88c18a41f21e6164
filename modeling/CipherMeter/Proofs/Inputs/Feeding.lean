import CipherMeter.Proofs.FileMac.Report
import CipherMeter.Proofs.Inputs.Generation
import CipherMeter.Proofs.RoundTrip.Ready

/-!
Inputs that were generated are inputs that both benchmarks take.
-/

namespace CipherMeter

open Run

namespace Inputs

/-- Files under these paths that a round trip can work on. -/
structure Usable (t : FileTree) (paths : Paths) (key nonce plaintext : Bytes) : Prop where
  read_key : t.read paths.key = .ok key
  read_nonce : t.read paths.nonce = .ok nonce
  read_plaintext : t.read paths.plaintext = .ok plaintext
  isSome_size : (Aes.KeySize.ofLength? key.length).isSome
  length_nonce : nonce.length = 12

/-- The bytes that are drawn are found under the paths, and are usable. -/
theorem usable_of_generate {dir : Path} {keySize plaintextSize memory : ℕ} {w w' : World}
    {paths : Paths} (h : inWorld (generate dir keySize plaintextSize memory) w = (.ok paths, w')) :
    Usable w'.files paths (w.generator.draw keySize).1 ((w.generator.draw keySize).2.draw 12).1
      (((w.generator.draw keySize).2.draw 12).2.draw plaintextSize).1 := by
  rcases inWorld_generate_cases dir keySize plaintextSize memory w with
    ⟨-, hrun⟩ | ⟨-, c, g, -, hrun⟩ |
      ⟨hsize, -, ⟨w₂, hrun, hfilled⟩ | ⟨done, name, a, rest, e, w₂, -, hrun, -⟩⟩
  · cases h.symm.trans hrun
  · cases h.symm.trans hrun
  · cases h.symm.trans hrun
    have hread := hfilled.read_eq_ok
    simp only [drawn, List.forall_mem_cons] at hread
    obtain ⟨hkey, hnonce, hplaintext, -⟩ := hread
    rw [← Generator.length_draw keySize w.generator] at hsize
    exact ⟨hkey, hnonce, hplaintext, hsize, Generator.length_draw ..⟩
  · cases h.symm.trans hrun

/-- What is generated is usable, and has the sizes that were asked for. -/
theorem exists_usable_of_generate {dir : Path} {keySize plaintextSize memory : ℕ} {w w' : World}
    {paths : Paths} (h : inWorld (generate dir keySize plaintextSize memory) w = (.ok paths, w')) :
    ∃ key nonce plaintext, Usable w'.files paths key nonce plaintext ∧ key.length = keySize ∧
      plaintext.length = plaintextSize :=
  ⟨_, _, _, usable_of_generate h, Generator.length_draw .., Generator.length_draw ..⟩

end Inputs

/-- What is reported of a round trip that succeeds on inputs of these sizes. -/
structure RoundTrip.Report.Succeeds (r : Report) (keySize plaintextSize : ℕ) : Prop where
  authenticated : r.authenticated = true
  plaintextMatches : r.plaintextMatches = true
  plaintextLength : r.plaintextLength = plaintextSize
  name : Cipher.nameOf r.size = "AES-" ++ toString (8 * keySize) ++ "-GCM"

namespace Inputs

/-- Inputs that were generated can be fed to both benchmarks, any number of times since the files
stay: a round trip succeeds, unless the associated data exceed the limit of the cipher, and the code
of the plaintext is calculated. -/
theorem generated_feed_benchmarks (dir : Path) (keySize plaintextSize memory : ℕ) (w w' : World)
    (paths : Paths) (h : inWorld (generate dir keySize plaintextSize memory) w = (.ok paths, w'))
    (hsize : plaintextSize ≤ Gcm.plaintextLimit) :
    ∀ w₁ : World, w₁.files = w'.files →
      ∀ warmup iterations : ℕ, 1 ≤ iterations → iterations ≤ Sampler.maxIterations →
        (Stats.Fits "encrypt" (w₁.laps iterations) →
          Stats.Fits "decrypt" ((w₁.tick (2 * iterations)).laps iterations) → ∀ aad : Bytes,
            aad.length ≤ Gcm.aadLimit ↔ ∃ r w₂, inWorld (RoundTrip.run
                ⟨paths.key, paths.nonce, paths.plaintext, aad, warmup, iterations, false⟩) w₁ =
              (.ok r, w₂) ∧ r.Succeeds keySize plaintextSize ∧ w₂.files = w'.files) ∧
        (Stats.Fits "hmac" (w₁.laps iterations) → ∀ (key : Bytes) (chunkSize : ℕ), 1 ≤ chunkSize →
          chunkSize ≤ FileMac.maxChunkSize → ∃ r w₂, inWorld (FileMac.run
              ⟨.literal key, paths.plaintext, chunkSize, warmup, iterations⟩) w₁ = (.ok r, w₂) ∧
            r.bytesRead = plaintextSize ∧ w₂.files = w'.files) := by
  obtain ⟨key, nonce, plaintext, husable, rfl, rfl⟩ := exists_usable_of_generate h
  intro w₁ hfiles warmup iterations hpos hle
  rw [← hfiles] at husable ⊢
  constructor
  · intro hencrypt hdecrypt aad
    let s : RoundTrip.Settings :=
      ⟨paths.key, paths.nonce, paths.plaintext, aad, warmup, iterations, false⟩
    have hready : RoundTrip.Ready s w₁ key nonce plaintext :=
      { husable with
        one_le_iterations := hpos
        iterations_le := hle
        length_plaintext_le := hsize
        encrypt_fits := hencrypt
        decrypt_fits := hdecrypt }
    constructor
    · intro haad
      obtain ⟨c, rfl, rfl⟩ := hready.exists_course haad
      have htells := c.report_tells
      obtain ⟨hauthenticated, hmatches⟩ := htells.untampered rfl
      exact ⟨c.report, c.world, c.inWorld_run,
        ⟨hauthenticated, hmatches, htells.plaintextLength, htells.name⟩, rfl⟩
    · rintro ⟨r, w₂, hrun, -⟩
      exact hready.exists_report_iff.mp ⟨r, w₂, hrun⟩
  · intro hfits macKey chunkSize hchunk hmax
    have hready : FileMac.Ready ⟨.literal macKey, paths.plaintext, chunkSize, warmup, iterations⟩
        w₁ macKey plaintext :=
      { one_le_chunkSize := hchunk
        chunkSize_le := hmax
        one_le_iterations := hpos
        iterations_le := hle
        supply_key := rfl
        read_file := husable.read_plaintext
        times_fit := hfits }
    obtain ⟨finalize, -, hrun⟩ := hready.inWorld_run
    exact ⟨_, _, hrun, rfl, rfl⟩

/-- Two bytes and a key of 32 are generated into a directory and then fed to both benchmarks. -/
theorem generated_feed_benchmarks_directory : ∃ paths w' r₁ w₁ r₂ w₂,
    inWorld (generate (.ofString "d") 32 2) (.still ⟨[([[0x64]], .directory)], []⟩) =
        (.ok paths, w') ∧
      inWorld (RoundTrip.run ⟨paths.key, paths.nonce, paths.plaintext, [1], 1, 1, false⟩)
        (.still w'.files) = (.ok r₁, w₁) ∧ r₁.Succeeds 32 2 ∧
      inWorld (FileMac.run ⟨.literal [], paths.plaintext, 1, 0, 1⟩) (.still w'.files) =
        (.ok r₂, w₂) ∧ r₂.bytesRead = 2 := by
  have hgenerate : (inWorld (generate (.ofString "d") 32 2)
      (.still ⟨[([[0x64]], .directory)], []⟩)).1 = .ok (.inDirectory (.ofString "d")) := by
    decide +kernel
  obtain ⟨w', hrun⟩ : ∃ w', inWorld (generate (.ofString "d") 32 2)
      (.still ⟨[([[0x64]], .directory)], []⟩) = (.ok (.inDirectory (.ofString "d")), w') :=
    ⟨_, Prod.ext hgenerate rfl⟩
  have hfed := generated_feed_benchmarks _ _ _ _ _ _ _ hrun (by decide) (.still w'.files) rfl
  -- the only time that is taken is zero
  have hfits : ∀ operation ∈ ["encrypt", "decrypt", "hmac"], ∀ n,
      Stats.Fits operation (((World.still w'.files).tick n).laps 1) := by
    intro operation hmem n
    have hlaps : ((World.still w'.files).tick n).laps 1 = [.zero] := rfl
    rw [hlaps]
    simp only [List.mem_cons, List.not_mem_nil, or_false] at hmem
    rcases hmem with rfl | rfl | rfl <;> decide +kernel
  obtain ⟨hroundTrip, -⟩ := hfed 1 1 (by decide) (by decide)
  obtain ⟨-, hmac⟩ := hfed 0 1 (by decide) (by decide)
  obtain ⟨r₁, w₁, hrun₁, hsucceeds, -⟩ :=
    (hroundTrip (hfits _ (by decide) 0) (hfits _ (by decide) _) [1]).mp (by decide)
  obtain ⟨r₂, w₂, hrun₂, hbytes, -⟩ := hmac (hfits _ (by decide) 0) [] 1 (by decide) (by decide)
  exact ⟨_, w', r₁, w₁, r₂, w₂, hrun, hrun₁, hsucceeds, hrun₂, hbytes⟩

end Inputs

end CipherMeter
