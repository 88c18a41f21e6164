import CipherMeter.Proofs.Checks
import CipherMeter.Proofs.Inputs.Generation
import CipherMeter.Proofs.RoundTrip.Ready

/-!
Why a round trip is refused: of all that can be wrong with its settings and its files, the one thing
that is told.
-/

namespace CipherMeter

open Run

/-- The length of a key decides what is found wrong with it. -/
def Check.keyLength (key : Bytes) : Check :=
  require (key.length = 16 ∨ key.length = 24 ∨ key.length = 32) (.invalidKeyLength key.length)

def Check.nonceLength (nonce : Bytes) : Check :=
  require (nonce.length = 12) (.invalidNonceLength 12 nonce.length)

theorem Check.error?_cipher (key : Bytes) :
    Except.error? (Cipher.ofBytes key) = first [keyLength key] := by
  rw [first_cons, keyLength, require]
  cases hsize : Aes.KeySize.ofLength? key.length with
  | none =>
    obtain ⟨h₁, h₂, h₃⟩ := Aes.KeySize.ofLength?_eq_none_iff.mp hsize
    rw [Cipher.ofBytes_eq_error hsize, if_neg (by simp [h₁, h₂, h₃])]
    rfl
  | some size =>
    have hlength := Aes.KeySize.ofLength?_eq_some_iff.mp hsize
    rw [Cipher.ofBytes_eq_ok hlength, hlength]
    cases size <;> rfl

theorem Check.error?_nonce (nonce : Bytes) :
    Except.error? (Nonce.ofBytes nonce) = first [nonceLength nonce] := by
  rw [first_cons, nonceLength, require, Nonce.ofBytes]
  by_cases h : nonce.length = 12
  · rw [dif_pos h, if_pos h]
    rfl
  · rw [dif_neg h, if_neg h]
    rfl

namespace RoundTrip

/-- The checks of a round trip in their order. -/
def Settings.checks (s : Settings) (t : FileTree) : List Check :=
  Check.iterations s.iterations ++
    [.readable t s.keyPath, .readable t s.noncePath, .readable t s.plaintextPath,
      .contents t s.keyPath .keyLength, .contents t s.noncePath .nonceLength]

theorem failsAt_run (s : Settings) (w : World) : FailsAt (s.checks w.files) (run s) w := by
  rw [run]
  refine .orFault_bind (Check.error?_make ..) fun sampler _ ↦ ?_
  refine .read_bind rfl fun key hkey ↦ .read_bind rfl fun nonce hnonce ↦
    .read_bind rfl fun plaintext _ ↦ ?_
  rw [Check.contents_of_read _ hkey, Check.contents_of_read _ hnonce]
  refine .orFault_bind (Check.error?_cipher key) fun cipher _ ↦ ?_
  exact .orFault_bind (Check.error?_nonce nonce) fun iv _ ↦ .nil _ _

/-- No check concerns the transforms. -/
theorem ne_of_mem_checks {s : Settings} {t : FileTree} {fault : Fault}
    (h : some fault ∈ s.checks t) : fault ≠ .authenticationFailure ∧
      (∀ n, fault ≠ .inputLengthWrong n) ∧ ∀ n, fault ≠ .inputTooLong n := by
  simp only [Settings.checks, Check.iterations, List.cons_append, List.nil_append, List.mem_cons,
    List.not_mem_nil, or_false, eq_comm (a := some fault), Check.require_eq_some_iff,
    Check.readable_eq_some_iff, Check.contents_eq_some_iff, Check.keyLength,
    Check.nonceLength] at h
  rcases h with ⟨-, rfl⟩ | ⟨-, rfl⟩ | ⟨e, -, rfl⟩ | ⟨e, -, rfl⟩ | ⟨e, -, rfl⟩ | ⟨a, -, -, rfl⟩ |
    ⟨a, -, -, rfl⟩ <;> simp

theorem exists_inputs_of_first_eq_none {s : Settings} {t : FileTree}
    (h : Check.first (s.checks t) = none) :
    (1 ≤ s.iterations ∧ s.iterations ≤ Sampler.maxIterations) ∧ ∃ key nonce plaintext,
      t.read s.keyPath = .ok key ∧ t.read s.noncePath = .ok nonce ∧
      t.read s.plaintextPath = .ok plaintext ∧ (Aes.KeySize.ofLength? key.length).isSome ∧
      nonce.length = 12 := by
  rw [Check.first_eq_none_iff] at h
  simp only [Settings.checks, Check.iterations, List.cons_append, List.nil_append,
    List.forall_mem_cons, Check.require_eq_none_iff, Check.readable_eq_none_iff] at h
  obtain ⟨hpos, hle, ⟨key, hkey⟩, ⟨nonce, hnonce⟩, ⟨plaintext, hplaintext⟩, hsize, hlength, -⟩ := h
  rw [Check.contents_of_read _ hkey, Check.keyLength, Check.require_eq_none_iff] at hsize
  rw [Check.contents_of_read _ hnonce, Check.nonceLength, Check.require_eq_none_iff] at hlength
  obtain ⟨size, hsize⟩ := Aes.KeySize.exists_length hsize
  refine ⟨⟨hpos, hle⟩, key, nonce, plaintext, hkey, hnonce, hplaintext, ?_, hlength⟩
  rw [Aes.KeySize.ofLength?_eq_some_iff.mpr hsize]
  rfl

/-- The first check that fails decides what a round trip tells, and if none fails there is a report,
tampering or not: whatever becomes of the tag, it is no error. The files stay as they are. -/
theorem refused_by_first_check (s : Settings) (w : World) (haad : s.aad.length ≤ Gcm.aadLimit)
    (hplaintext : ∀ plaintext, w.files.read s.plaintextPath = .ok plaintext →
      plaintext.length ≤ Gcm.plaintextLimit)
    (hfit : s.iterations ≤ Sampler.maxIterations → Stats.Fits "encrypt" (w.laps s.iterations) ∧
      Stats.Fits "decrypt" ((w.tick (2 * s.iterations)).laps s.iterations)) :
    ∃ o w', inWorld (run s) w = (o, w') ∧ Check.Decide (s.checks w.files) o ∧ w'.files = w.files ∧
      o ≠ .error (.fault .authenticationFailure) ∧
      (∀ n, o ≠ .error (.fault (.inputLengthWrong n))) ∧
      ∀ n, o ≠ .error (.fault (.inputTooLong n)) := by
  cases hfirst : Check.first (s.checks w.files) with
  | some fault =>
    obtain ⟨es, hrun⟩ := failsAt_run s w fault hfirst
    have hkind := ne_of_mem_checks (Check.mem_of_first hfirst)
    refine ⟨_, _, hrun, .of_fault hfirst, rfl, ?_⟩
    simpa only [ne_eq, Except.error.injEq, Failure.fault.injEq] using hkind
  | none =>
    obtain ⟨⟨hpos, hle⟩, key, nonce, plaintext, hkey, hnonce, hread, hsize, hlength⟩ :=
      exists_inputs_of_first_eq_none hfirst
    obtain ⟨hencrypt, hdecrypt⟩ := hfit hle
    have hready : Ready s w key nonce plaintext :=
      { one_le_iterations := hpos
        iterations_le := hle
        read_key := hkey
        read_nonce := hnonce
        read_plaintext := hread
        isSome_size := hsize
        length_nonce := hlength
        length_plaintext_le := hplaintext plaintext hread
        encrypt_fits := hencrypt
        decrypt_fits := hdecrypt }
    obtain ⟨c, -, -⟩ := hready.exists_course haad
    exact ⟨_, _, c.inWorld_run, .of_ok hfirst c.report, rfl, nofun, nofun, nofun⟩

/-- A key of three bytes, an empty nonce and a plaintext of one byte. -/
def unfitWorld : World :=
  .still ⟨[([Utf8.encode Inputs.keyName], .file [1, 2, 3]),
    ([Utf8.encode Inputs.nonceName], .file []),
    ([Utf8.encode Inputs.plaintextName], .file [0x61])], []⟩

/-- Of a key and a nonce that do not fit the key is told, and before both a plaintext that is not
there. -/
theorem refused_by_first_check_unfitWorld :
    (∃ w, inWorld (run { tamper := true }) unfitWorld =
      (.error (.fault (.invalidKeyLength 3)), w) ∧ w.files = unfitWorld.files) ∧
    ∃ w, inWorld (run { plaintextPath := .ofString "p" }) unfitWorld =
      (.error (.fault (.io (.ofString "p") .notFound)), w) ∧ w.files = unfitWorld.files := by
  have hfits : Stats.Fits "encrypt" (unfitWorld.laps 1) ∧
      Stats.Fits "decrypt" ((unfitWorld.tick (2 * 1)).laps 1) := by
    decide +kernel
  constructor
  · have hread : unfitWorld.files.read (.ofString Inputs.plaintextName) = .ok [0x61] := by
      decide +kernel
    obtain ⟨o, w, hrun, hdecide, hfiles, -⟩ := refused_by_first_check { tamper := true } unfitWorld
      (by decide) (fun plaintext h ↦ by cases hread.symm.trans h; decide) fun _ ↦ hfits
    have hfirst : Check.first (Settings.checks { tamper := true } unfitWorld.files) =
        some (.invalidKeyLength 3) := by
      decide +kernel
    rw [(hdecide.error_iff _).mpr ⟨_, hfirst, rfl⟩] at hrun
    exact ⟨w, hrun, hfiles⟩
  · have hread : unfitWorld.files.read (.ofString "p") = .error .notFound := by
      decide +kernel
    obtain ⟨o, w, hrun, hdecide, hfiles, -⟩ := refused_by_first_check
      { plaintextPath := .ofString "p" } unfitWorld (by decide)
      (fun _ h ↦ nomatch hread.symm.trans h) fun _ ↦ hfits
    have hfirst :
        Check.first (Settings.checks { plaintextPath := .ofString "p" } unfitWorld.files) =
          some (.io (.ofString "p") .notFound) := by
      decide +kernel
    rw [(hdecide.error_iff _).mpr ⟨_, hfirst, rfl⟩] at hrun
    exact ⟨w, hrun, hfiles⟩

end RoundTrip

end CipherMeter
