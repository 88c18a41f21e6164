import CipherMeter.Proofs.Measurement
import CipherMeter.Proofs.RoundTrip.Report
import CipherMeter.Proofs.RoundTrip.Settings
import CipherMeter.RoundTrip.Command

namespace CipherMeter.RoundTrip

open Run

/-- A round trip crashes only if its times overflow. -/
theorem not_crashes_run (s : Settings) (w : World)
    (hfit : s.iterations ≤ Sampler.maxIterations → Stats.Fits "encrypt" (w.laps s.iterations) ∧
      Stats.Fits "decrypt" ((w.tick (2 * s.iterations)).laps s.iterations)) :
    ¬ Crashes (run s) w := by
  rw [run]
  refine not_crashes_orFault_bind fun sampler hsampler ↦ ?_
  obtain ⟨hle, -, hiterations⟩ := Sampler.make_eq_ok_iff.mp hsampler
  obtain ⟨hencrypt, hdecrypt⟩ := hfit hle
  rw [← hiterations] at hencrypt hdecrypt
  refine not_crashes_read_bind fun key _ ↦ not_crashes_read_bind fun nonce _ ↦
    not_crashes_read_bind fun plaintext _ ↦ ?_
  refine not_crashes_orFault_bind fun cipher _ ↦ not_crashes_orFault_bind fun iv _ ↦
    not_crashes_record_bind ?_
  refine Sampler.not_crashes_runWithSetup_evaluate_bind (by simpa using hencrypt) fun encrypt _ ↦ ?_
  refine not_crashes_orFault_bind fun tag _ ↦ ?_
  refine Sampler.not_crashes_runWithSetup_evaluate_bind (by simpa using hdecrypt) fun decrypt _ ↦ ?_
  refine not_crashes_orFault_bind fun flags _ ↦ ?_
  dsimp only
  split
  · exact not_crashes_record_bind (not_crashes_record_bind (not_crashes_of_ok (inWorld_pure ..)))
  · exact not_crashes_record_bind (not_crashes_of_ok (inWorld_pure ..))

/-- The lines of a complete report. -/
def completeLines (s : Settings) (r : Report) : List String :=
  Stats.timingLines "encrypt" "encrypt" s.iterations r.encrypt ++
    Stats.timingLines "decrypt" "decrypt" s.iterations r.decrypt ++
      [if r.authenticated then "Authentication successful"
        else "Authentication failed - the data may have been tampered with!"]

theorem lines_of_run {s : Settings} {w w' : World} {r : Report}
    (h : inWorld (run s) w = (.ok r, w')) : r.lines = completeLines s r := by
  obtain ⟨c, rfl, -⟩ := (inWorld_run_eq_ok_iff ..).mp h
  have hencrypt := Stats.lines_of_ofSamples "encrypt" c.encrypt_eq
  have hdecrypt := Stats.lines_of_ofSamples "decrypt" c.decrypt_eq
  rw [World.length_laps, c.iterations_eq] at hencrypt hdecrypt
  exact congrArg₂ (· ++ · ++ [_]) hencrypt hdecrypt

def measurement : Measurement Arguments Settings Report where
  settings := Arguments.settings
  printConfig := Arguments.printConfig
  echo := Settings.echo
  run := run
  lines := Report.lines

variable {a : Arguments} {s : Settings}

theorem settings_eq_ok_iff : a.settings = .ok s ↔ ∃ aad, Hex.decodeOrFault a.aad = .ok aad ∧
    s = ⟨a.keyPath, a.noncePath, a.plaintextPath, aad, a.warmup, a.iterations, a.tamper⟩ := by
  simp only [Arguments.settings, Except.map_eq_ok_iff, eq_comm (a := s)]

/-- The times that are measured for the arguments do not overflow. -/
def TimesFit (a : Arguments) (w : World) : Prop :=
  a.printConfig = false → a.iterations ≤ Sampler.maxIterations →
    Stats.Fits "encrypt" (w.laps a.iterations) ∧
      Stats.Fits "decrypt" ((w.tick (2 * a.iterations)).laps a.iterations)

theorem conforms : measurement.Conforms "Error: "
    (fun a ↦ Outcome.ofArguments faultLabel execute (some a)) completeLines TimesFit
    (fun a f ↦ Hex.decodeOrFault a.aad = .error f)
    (fun a₁ a₂ ↦ ∃ iterations, a₂ = { a₁ with iterations }) := by
  refine .of_execute (fun _ ↦ rfl) ?_ (fun _ _ _ _ ↦ lines_of_run) ?_ ?_
  · intro a w s hfit hs hprint
    obtain ⟨aad, -, rfl⟩ := settings_eq_ok_iff.mp hs
    exact not_crashes_run _ w (hfit hprint)
  · intro a f hf
    exact ⟨(Except.map_eq_error_iff ..).mpr hf, Hex.exitCode_of_decodeOrFault hf⟩
  · rintro a₁ _ ⟨iterations, rfl⟩
    refine ⟨rfl, (Except.LiftRel.refl (R := Eq) (fun _ ↦ rfl) _).map fun aad _ _ ↦ ?_⟩
    exact Settings.liftRel_echo rfl rfl rfl

end CipherMeter.RoundTrip
