import CipherMeter.Proofs.FileMac.Report

/-!
What a run of the code of a file answers, as a function of its settings, the files and the times.
-/

namespace CipherMeter.FileMac

open Run

/-- What a run works on, the key and the contents of the file, or the fault of the first check that
fails on the way there. -/
def Settings.inputs (s : Settings) (t : FileTree) : Except Fault (Bytes × Bytes) := do
  s.validate
  let key ← s.key.supply t
  let contents ← (t.read s.filePath).mapError (.io s.filePath)
  return (key, contents)

/-- What a run makes of its inputs and of the summary of its times. -/
def answer (inputs : Except Fault (Bytes × Bytes)) (finalize : Except Failure Stats) :
    Except Failure Report :=
  match inputs with
  | .error fault => .error (.fault fault)
  | .ok (key, contents) =>
    finalize.map fun st ↦ ⟨contents.length, st, Mac.ofMessage ⟨key⟩ contents⟩

theorem inputs_eq_ok_iff {s : Settings} {t : FileTree} {key contents : Bytes} :
    s.inputs t = .ok (key, contents) ↔ s.validate = .ok () ∧ s.key.supply t = .ok key ∧
      t.read s.filePath = .ok contents := by
  simp only [Settings.inputs, Except.bind_eq_ok_iff, Except.mapError_eq_ok_iff]
  constructor
  · rintro ⟨⟨⟩, hvalidate, key', hkey, contents', hread, h⟩
    cases h
    exact ⟨hvalidate, hkey, hread⟩
  · rintro ⟨hvalidate, hkey, hread⟩
    exact ⟨(), hvalidate, key, hkey, contents, hread, rfl⟩

/-- Where a key comes from makes no difference. -/
theorem inputs_eq_of_supply (s : Settings) {t : FileTree} {source₁ source₂ : KeySource}
    (h : source₁.supply t = source₂.supply t) :
    { s with key := source₁ }.inputs t = { s with key := source₂ }.inputs t := by
  have hvalidate : { s with key := source₁ }.validate = { s with key := source₂ }.validate := rfl
  rw [Settings.inputs, Settings.inputs, hvalidate]
  simp only [h]

section

variable {s : Settings} {w : World} {fault : Fault}

theorem inWorld_run_of_validate (h : s.validate = .error fault) :
    inWorld (run s) w = (.error (.fault fault), w) := by
  rw [run, inWorld_bind, inWorld_orFault, h]
  rfl

variable (hvalidate : s.validate = .ok ())

include hvalidate

theorem exists_sampler_eq_ok : ∃ sampler, s.sampler = .ok sampler := by
  obtain ⟨-, hpos, hle⟩ := (validate_eq_ok_iff s).mp hvalidate
  exact ⟨⟨s.warmup, s.iterations, hpos⟩, Sampler.make_eq_ok_iff.mpr ⟨hle, rfl, rfl⟩⟩

theorem inWorld_run_of_supply (h : s.key.supply w.files = .error fault) :
    inWorld (run s) w = (.error (.fault fault), w) := by
  obtain ⟨sampler, hsampler⟩ := exists_sampler_eq_ok hvalidate
  have hload : inWorld (loadKey s.key) w = (.error (.fault fault), w) := by
    cases hkey : s.key with
    | literal key =>
      rw [hkey] at h
      cases h
    | file path =>
      rw [hkey] at h
      obtain ⟨e, hread, rfl⟩ := (Except.mapError_eq_error_iff ..).mp h
      rw [loadKey, inWorld_bind, inWorld_read, hread]
  rw [run, inWorld_bind_of_ok _ (inWorld_orFault_of_ok w hvalidate),
    inWorld_bind_of_ok _ (inWorld_orFault_of_ok w hsampler), inWorld_bind, hload]

/-- A file that cannot be read is found out after the key is loaded. -/
theorem inWorld_run_of_read_error {key : Bytes} {e : IoError}
    (hkey : s.key.supply w.files = .ok key) (h : w.files.read s.filePath = .error e) :
    inWorld (run s) w =
      (.error (.fault (.io s.filePath e)), w.note (s.key.loaded key)) := by
  obtain ⟨sampler, hsampler⟩ := exists_sampler_eq_ok hvalidate
  have hstream : inWorld (stream (.ofKey ⟨key⟩) s.filePath s.chunkSize)
      (w.note (s.key.loaded key)) =
        (.error (.fault (.io s.filePath e)), w.note (s.key.loaded key)) := by
    have hfile : inWorld (Host.readFile s.filePath : Run (Except IoError Bytes))
        (w.note (s.key.loaded key)) = (.ok (.error e), w.note (s.key.loaded key)) := by
      rw [← h]
      rfl
    rw [stream, inWorld_bind_of_ok _ hfile, inWorld_bind]
    rfl
  rw [run, inWorld_bind_of_ok _ (inWorld_orFault_of_ok w hvalidate),
    inWorld_bind_of_ok _ (inWorld_orFault_of_ok w hsampler),
    inWorld_bind_of_ok _ (inWorld_loadKey s.key w hkey), inWorld_bind, hstream]

end

/-- The answer of a run is that of its first check to fail, or the report on its inputs. -/
theorem fst_inWorld_run (s : Settings) (w : World) : (inWorld (run s) w).1 =
    answer (s.inputs w.files) (Stats.ofSamples "hmac" (w.laps s.iterations)) := by
  cases hvalidate : s.validate with
  | error fault =>
    rw [inWorld_run_of_validate hvalidate, Settings.inputs, hvalidate]
    rfl
  | ok =>
    cases hkey : s.key.supply w.files with
    | error fault =>
      rw [inWorld_run_of_supply hvalidate hkey, Settings.inputs, hvalidate, hkey]
      rfl
    | ok key =>
      cases hread : w.files.read s.filePath with
      | error e =>
        rw [inWorld_run_of_read_error hvalidate hkey hread, Settings.inputs, hvalidate, hkey, hread]
        rfl
      | ok contents =>
        have hinputs := inputs_eq_ok_iff.mpr ⟨hvalidate, hkey, hread⟩
        rw [inWorld_run_of_read hvalidate hkey hread, hinputs, answer]
        cases Stats.ofSamples "hmac" (w.laps s.iterations) <;> rfl

end CipherMeter.FileMac
