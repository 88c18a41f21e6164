import CipherMeter.Proofs.FileMac.Command
import CipherMeter.Proofs.RoundTrip.Command

namespace CipherMeter

open Run

/-- Both commands that measure do all that the arguments ask for or print nothing but the fault,
whatever the arguments, the files and the state of the world are. -/
theorem commands_conform :
    RoundTrip.measurement.Conforms "Error: "
      (fun a ↦ Outcome.ofArguments RoundTrip.faultLabel RoundTrip.execute (some a))
      RoundTrip.completeLines RoundTrip.TimesFit (fun a f ↦ Hex.decodeOrFault a.aad = .error f)
      (fun a₁ a₂ ↦ ∃ iterations, a₂ = { a₁ with iterations }) ∧
    FileMac.measurement.Conforms "HMAC: "
      (fun a ↦ Outcome.ofArguments FileMac.faultLabel FileMac.execute (some a))
      FileMac.completeLines FileMac.TimesFit FileMac.Malformed
      (fun a₁ a₂ ↦ ∃ chunkSize iterations, a₂ = { a₁ with chunkSize, iterations }) ∧
    ∀ arguments : List String,
      (∀ a, RoundTrip.Arguments.parse? arguments = some a →
        (RoundTrip.command arguments : Run Outcome) =
          Outcome.ofArguments RoundTrip.faultLabel RoundTrip.execute (some a)) ∧
      ∀ a, FileMac.Arguments.parse? arguments = some a →
        (FileMac.command arguments : Run Outcome) =
            Outcome.ofArguments FileMac.faultLabel FileMac.execute (some a) ∧
          ∀ digits, a.keyHex = some digits → a.keyLiteral = none := by
  refine ⟨RoundTrip.conforms, FileMac.conforms, fun arguments ↦ ⟨fun a h ↦ ?_, fun a h ↦ ⟨?_, ?_⟩⟩⟩
  · rw [RoundTrip.command, h]
  · rw [FileMac.command, h]
  · exact fun digits hdigits ↦ FileMac.keyLiteral_of_parse? h hdigits

theorem commands_conform_runs :
    (∃ o w', inWorld (RoundTrip.command ["--tamper"]) RoundTrip.stillWorld = (.ok o, w') ∧
      Xor (RoundTrip.measurement.Completed RoundTrip.completeLines { tamper := true }
          RoundTrip.stillWorld o)
        (RoundTrip.measurement.Refused "Error: " { tamper := true } RoundTrip.stillWorld o)) ∧
    (∃ o w', inWorld (FileMac.command ["--iterations", "2"]) FileMac.tickingWorld = (.ok o, w') ∧
      Xor (FileMac.measurement.Completed FileMac.completeLines { iterations := 2 }
          FileMac.tickingWorld o)
        (FileMac.measurement.Refused "HMAC: " { iterations := 2 } FileMac.tickingWorld o)) ∧
    ∀ w, inWorld (RoundTrip.command ["--aad", "0", "--print-config"]) w =
      (.ok ⟨65, "Error: Invalid input: invalid hex string: Odd number of digits\n"⟩, w) := by
  obtain ⟨hroundTrip, hfileMac, hcommands⟩ := commands_conform
  refine ⟨?_, ?_, fun w ↦ ?_⟩
  · have hparse : RoundTrip.Arguments.parse? ["--tamper"] = some { tamper := true } := by
      decide +kernel
    rw [(hcommands _).1 _ hparse]
    refine hroundTrip.ends _ _ fun _ _ ↦ ⟨?_, ?_⟩
    · decide +kernel
    · decide +kernel
  · have hparse : FileMac.Arguments.parse? ["--iterations", "2"] = some { iterations := 2 } := by
      decide +kernel
    rw [((hcommands _).2 _ hparse).1]
    refine hfileMac.ends _ _ fun _ _ _ _ ↦ ?_
    have hsort : Stats.sort (FileMac.tickingWorld.laps 2) = FileMac.tickingWorld.laps 2 :=
      List.mergeSort_of_pairwise (by decide +kernel)
    rw [Stats.Fits, Stats.ofSamples, hsort]
    decide +kernel
  · have hparse : RoundTrip.Arguments.parse? ["--aad", "0", "--print-config"] =
        some { aad := "0", printConfig := true } := by decide +kernel
    have hdecode : Hex.decodeOrFault "0" = .error (.invalidInput (.hex .oddLength)) := by
      decide +kernel
    rw [(hcommands _).1 _ hparse]
    exact hroundTrip.malformed { aad := "0", printConfig := true } _ hdecode w

end CipherMeter
