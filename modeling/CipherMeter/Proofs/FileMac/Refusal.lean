import CipherMeter.Proofs.Checks
import CipherMeter.Proofs.FileMac.Answer

/-!
Why the code of a file is refused. The settings are checked before any file, so that a fault of a
file is never one of the settings.
-/

namespace CipherMeter.FileMac

open Run

def KeySource.checks (t : FileTree) : KeySource → List Check
  | .literal _ => []
  | .file path => [.readable t path]

namespace Settings

/-- The checks that no file is needed for. -/
def limits (s : Settings) : List Check :=
  [.require (1 ≤ s.chunkSize) (.invalidInput .emptyChunk),
    .require (s.chunkSize ≤ maxChunkSize) (.invalidInput (.chunkAbove maxChunkSize s.chunkSize))] ++
      Check.iterations s.iterations

/-- All checks in their order. -/
def checks (s : Settings) (t : FileTree) : List Check :=
  s.limits ++ (s.key.checks t ++ [.readable t s.filePath])

theorem error?_validate (s : Settings) : Except.error? s.validate = Check.first s.limits := by
  rw [limits, Check.first_append, Check.first_cons, Check.first_cons, Check.require, Check.require,
    validate]
  by_cases hzero : s.chunkSize = 0
  · rw [if_pos hzero, if_neg (by omega)]
    rfl
  · have hpos : 1 ≤ s.chunkSize := Nat.pos_of_ne_zero hzero
    rw [if_neg hzero, if_pos hpos]
    by_cases habove : maxChunkSize < s.chunkSize
    · rw [if_pos habove, if_neg (by omega)]
      rfl
    · rw [if_neg habove, if_pos (by omega), ← Check.error?_make s.warmup, sampler]
      cases Sampler.make s.warmup s.iterations <;> rfl

theorem error?_supply (t : FileTree) (source : KeySource) :
    Except.error? (source.supply t) = Check.first (source.checks t) := by
  cases source with
  | literal key => rfl
  | file path =>
    rw [KeySource.checks, Check.first_cons]
    exact (Option.or_none ..).symm

theorem error?_inputs (s : Settings) (t : FileTree) :
    Except.error? (s.inputs t) = Check.first (s.checks t) := by
  rw [checks, Check.first_append, Check.first_append, ← error?_validate, ← error?_supply, inputs]
  cases s.validate with
  | error fault => rfl
  | ok =>
    cases s.key.supply t with
    | error fault => rfl
    | ok key =>
      rw [Check.first_cons, Check.readable]
      cases (t.read s.filePath).mapError (Fault.io s.filePath) <;> rfl

/-- What is told of a file is what the system says of the file of the key or of the input. -/
theorem kind_of_mem_checks {s : Settings} {t : FileTree} {fault : Fault}
    (h : some fault ∈ s.checks t) : (∃ flaw, fault = .invalidInput flaw) ∨ ∃ path e,
      fault = .io path e ∧ t.read path = .error e ∧ (s.key = .file path ∨ path = s.filePath) := by
  rw [checks, List.mem_append, List.mem_append, List.mem_singleton, eq_comm (a := some fault),
    Check.readable_eq_some_iff] at h
  rcases h with h | h | ⟨e, hread, rfl⟩
  · simp only [limits, Check.iterations, List.cons_append, List.nil_append, List.mem_cons,
      List.not_mem_nil, or_false, eq_comm (a := some fault), Check.require_eq_some_iff] at h
    rcases h with ⟨-, rfl⟩ | ⟨-, rfl⟩ | ⟨-, rfl⟩ | ⟨-, rfl⟩ <;> exact .inl ⟨_, rfl⟩
  · cases hkey : s.key with
    | literal key =>
      rw [hkey] at h
      cases h
    | file path =>
      rw [hkey, KeySource.checks, List.mem_singleton, eq_comm, Check.readable_eq_some_iff] at h
      obtain ⟨e, hread, rfl⟩ := h
      exact .inr ⟨path, e, rfl, hread, .inl rfl⟩
  · exact .inr ⟨s.filePath, e, rfl, hread, .inr rfl⟩

theorem validate_eq_ok_iff_limits (s : Settings) :
    s.validate = .ok () ↔ ∀ check ∈ s.limits, check = none := by
  rw [← Check.first_eq_none_iff, ← error?_validate, Except.error?_eq_none_iff]
  exact ⟨fun h ↦ ⟨(), h⟩, fun ⟨(), h⟩ ↦ h⟩

/-- With settings that are admitted, absorbing fails with what the reader says and not otherwise. -/
theorem error_of_absorb {ε : Type} {s : Settings} (h : s.validate = .ok ()) {memory : ℕ}
    (hmemory : maxChunkSize ≤ memory) (m : Mac) (r : Reader ε) {fault : AbsorbFault ε}
    (hfault : (m.absorb memory r s.chunkSize).outcome = .error fault) :
    ∃ e, fault = .reader e := by
  obtain ⟨⟨hpos, hle⟩, -⟩ := (validate_eq_ok_iff s).mp h
  have hfits : 0 < s.chunkSize ∧ s.chunkSize ≤ Bytes.addressLimit ∧ s.chunkSize ≤ memory :=
    ⟨hpos, hle.trans maxChunkSize_le.1, hle.trans hmemory⟩
  rw [Mac.absorb_of_fits hfits, Mac.outcome_absorbFrom] at hfault
  split at hfault
  · cases hfault
    exact ⟨_, rfl⟩
  · cases hfault

end Settings

/-- The first check that fails decides what a run tells: first those of the settings, then the key
file and the input file. With settings that are admitted no chunk is refused, so that a fault of a
file is one of the file. -/
theorem refused_by_limits_then_files (s : Settings) (w : World)
    (hfit : s.iterations ≤ Sampler.maxIterations → Stats.Fits "hmac" (w.laps s.iterations)) :
    ∃ o w', inWorld (run s) w = (o, w') ∧ Check.Decide (s.checks w.files) o ∧
      (∀ fault, o = .error (.fault fault) → (∃ flaw, fault = .invalidInput flaw) ∨
        ∃ path e, fault = .io path e ∧ w.files.read path = .error e ∧
          (s.key = .file path ∨ path = s.filePath)) ∧
      (s.validate = .ok () ↔ ∀ check ∈ s.limits, check = none) ∧
      (s.validate = .ok () → ∀ (ε : Type) (memory : ℕ) (m : Mac) (r : Reader ε),
        maxChunkSize ≤ memory → ∀ fault, (m.absorb memory r s.chunkSize).outcome = .error fault →
          ∃ e, fault = .reader e) := by
  have hdecide : Check.Decide (s.checks w.files) (inWorld (run s) w).1 := by
    have hfirst := s.error?_inputs w.files
    rw [fst_inWorld_run]
    cases hinputs : s.inputs w.files with
    | error fault =>
      rw [hinputs] at hfirst
      exact .of_fault hfirst.symm
    | ok inputs =>
      rw [hinputs] at hfirst
      obtain ⟨hvalidate, -, -⟩ := inputs_eq_ok_iff.mp hinputs
      obtain ⟨-, hpos, hle⟩ := (validate_eq_ok_iff s).mp hvalidate
      obtain ⟨finalize, hfinalize⟩ := World.exists_summary hpos (hfit hle)
      rw [hfinalize]
      exact .of_ok hfirst.symm _
  refine ⟨_, _, rfl, hdecide, fun fault h ↦ ?_, s.validate_eq_ok_iff_limits, ?_⟩
  · obtain ⟨_, hfirst, hfault⟩ := (hdecide.error_iff _).mp h
    cases hfault
    exact s.kind_of_mem_checks (Check.mem_of_first hfirst)
  · intro h ε memory m r hmemory fault hfault
    exact Settings.error_of_absorb h hmemory m r hfault

/-- Where there are no files a chunk that is too large is told first, then that the key is
missing. -/
theorem refused_by_limits_then_files_emptyWorld :
    (∃ w, inWorld (run ⟨.file (.ofString "k"), .ofString "a", 67108865, 0, 0⟩)
        (.still (.empty [])) =
      (.error (.fault (.invalidInput (.chunkAbove 67108864 67108865))), w)) ∧
    ∃ w, inWorld (run ⟨.file (.ofString "k"), .ofString "a", 67108864, 0, 1⟩) (.still (.empty [])) =
      (.error (.fault (.io (.ofString "k") .notFound)), w) := by
  constructor
  · obtain ⟨o, w, hrun, hdecide, -⟩ := refused_by_limits_then_files
      ⟨.file (.ofString "k"), .ofString "a", 67108865, 0, 0⟩ (.still (.empty []))
      fun _ ↦ by decide +kernel
    have ho := (hdecide.error_iff _).mpr
      ⟨.invalidInput (.chunkAbove 67108864 67108865), by decide +kernel, rfl⟩
    exact ⟨w, ho ▸ hrun⟩
  · obtain ⟨o, w, hrun, hdecide, -⟩ := refused_by_limits_then_files
      ⟨.file (.ofString "k"), .ofString "a", 67108864, 0, 1⟩ (.still (.empty []))
      fun _ ↦ by decide +kernel
    have ho := (hdecide.error_iff _).mpr
      ⟨.io (.ofString "k") .notFound, by decide +kernel, rfl⟩
    exact ⟨w, ho ▸ hrun⟩

end CipherMeter.FileMac
