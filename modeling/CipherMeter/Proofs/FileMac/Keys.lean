import CipherMeter.Proofs.FileMac.Answer
import CipherMeter.Proofs.FileMac.Command

/-!
The ways to give a key to the command: by its digits, in a file or as a text. Which one is taken
makes no difference to what comes out.
-/

namespace CipherMeter.FileMac

open Run

/-- What the command does for arguments that are understood. -/
def Arguments.perform (a : Arguments) : Run Outcome :=
  Outcome.ofArguments faultLabel execute (some a)

inductive KeyOption
  | digits (s : String)
  | file (path : Path)
  | text (s : String)

namespace KeyOption

/-- The option gives this key, provided that the files are these. -/
def Gives (t : FileTree) (key : Bytes) : KeyOption → Prop
  | .digits s => Hex.decodeOrFault s = .ok key
  | .file path => t.read path = .ok key
  | .text s => Utf8.encode s = key

instance (t : FileTree) (key : Bytes) (o : KeyOption) : Decidable (o.Gives t key) :=
  match o with
  | .digits s => inferInstanceAs (Decidable (Hex.decodeOrFault s = .ok key))
  | .file path => inferInstanceAs (Decidable (t.read path = .ok key))
  | .text s => inferInstanceAs (Decidable (Utf8.encode s = key))

/-- Arguments with the option added. -/
def addTo (a : Arguments) : KeyOption → Arguments
  | .digits s => { a with keyHex := some s }
  | .file path => { a with keyFile := some path }
  | .text s => { a with keyLiteral := some s }

end KeyOption

namespace Arguments

/-- No key is given. -/
structure Keyless (a : Arguments) : Prop where
  keyLiteral : a.keyLiteral = none
  keyHex : a.keyHex = none
  keyFile : a.keyFile = none

/-- The settings of arguments, with the key that they are given. -/
def settingsFor (a : Arguments) (key : KeySource) : Settings :=
  ⟨key, a.file, a.chunkSize, a.warmup, a.iterations⟩

/-- An option that gives a key supplies it, be it at once or in the run. -/
theorem exists_settings_addTo {a : Arguments} (ha : a.Keyless) {t : FileTree} {key : Bytes}
    {o : KeyOption} (h : o.Gives t key) :
    ∃ source, (o.addTo a).settings = .ok (a.settingsFor source) ∧ source.supply t = .ok key := by
  cases o with
  | digits s =>
    have hsource : (KeyOption.addTo a (.digits s)).keySource = .ok (.literal key) := by
      have hdecode : Hex.decodeOrFault s = .ok key := h
      rw [keySource, KeyOption.addTo, ha.keyLiteral]
      simp only [hdecode]
      rfl
    exact ⟨.literal key, settings_eq_ok_iff.mpr ⟨_, hsource, rfl⟩, rfl⟩
  | file path =>
    have hsource : (KeyOption.addTo a (.file path)).keySource = .ok (.file path) := by
      rw [keySource, KeyOption.addTo, ha.keyLiteral, ha.keyHex]
    exact ⟨.file path, settings_eq_ok_iff.mpr ⟨_, hsource, rfl⟩,
      (Except.mapError_eq_ok_iff ..).mpr h⟩
  | text s =>
    have hsource : (KeyOption.addTo a (.text s)).keySource = .ok (.literal key) := by
      have hencode : Utf8.encode s = key := h
      rw [← hencode]
      rfl
    exact ⟨.literal key, settings_eq_ok_iff.mpr ⟨_, hsource, rfl⟩, rfl⟩

end Arguments

/-- What the command makes of the answer of a run. -/
def outcomeOf : Except Failure Report → Outcome
  | .ok r => .success r.lines
  | .error e => .failure faultLabel e

/-- The outcome that ends with the code of the file, or with why there is none, after some other
lines. -/
def ending (before : List String) : Except Fault (Bytes × Bytes) → Outcome
  | .ok (key, contents) => .success
      (before ++ ["HMAC: " ++ Hex.encode (Mac.ofMessage ⟨key⟩ contents).toList])
  | .error fault => ⟨fault.exitCode, Outcome.unlines (before ++ ["HMAC: " ++ fault.message])⟩

/-- With a key given in any way the outcome is decided by the key, the file and the times. -/
theorem fst_inWorld_perform {a : Arguments} (ha : a.Keyless) (hprint : a.printConfig = false)
    {w : World} {key : Bytes} {o : KeyOption} (h : o.Gives w.files key) :
    (inWorld (o.addTo a).perform w).1 =
      .ok (outcomeOf (answer ((a.settingsFor (.literal key)).inputs w.files)
        (Stats.ofSamples "hmac" (w.laps a.iterations)))) := by
  obtain ⟨source, hsettings, hsupply⟩ := Arguments.exists_settings_addTo ha h
  have hshown : (o.addTo a).printConfig = false := by
    rw [← hprint]
    cases o <;> rfl
  have hinputs : (a.settingsFor source).inputs w.files =
      (a.settingsFor (.literal key)).inputs w.files :=
    inputs_eq_of_supply (a.settingsFor (.literal key)) hsupply
  have hrun := fst_inWorld_run (a.settingsFor source) w
  rw [hinputs] at hrun
  have hperform : (o.addTo a).perform =
      Outcome.conclude faultLabel (measurement.execute (o.addTo a)) := rfl
  rw [hperform, Measurement.inWorld_of_run faultLabel hsettings hshown]
  have hfst : (inWorld (measurement.run (a.settingsFor source)) w).1 =
      answer ((a.settingsFor (.literal key)).inputs w.files)
        (Stats.ofSamples "hmac" (w.laps a.iterations)) := hrun
  rw [← hfst]
  rcases inWorld (measurement.run (a.settingsFor source)) w with ⟨e | r, w'⟩
  · rfl
  · rfl

/-- Times that fit leave the ending to the key and the file. -/
theorem exists_outcomeOf_answer {s : Settings} {t : FileTree} {finalize : Except Failure Stats}
    (h : s.validate = .ok () → ∃ st, finalize = .ok st) :
    ∃ before, outcomeOf (answer (s.inputs t) finalize) = ending before (s.inputs t) := by
  cases hinputs : s.inputs t with
  | error fault => exact ⟨[], rfl⟩
  | ok inputs =>
    obtain ⟨key, contents⟩ := inputs
    obtain ⟨hvalidate, -, -⟩ := inputs_eq_ok_iff.mp hinputs
    obtain ⟨st, rfl⟩ := h hvalidate
    exact ⟨st.lines "calculate HMAC", rfl⟩

/-- Arguments that are understood give no key, or one in one of the three ways. -/
theorem exists_keyless_of_parse? {arguments : List String} {b : Arguments}
    (h : Arguments.parse? arguments = some b) :
    ∃ a : Arguments, a.Keyless ∧ (b = a ∨ ∃ o : KeyOption, b = o.addTo a) := by
  refine ⟨{ b with keyLiteral := none, keyHex := none, keyFile := none }, ⟨rfl, rfl, rfl⟩, ?_⟩
  obtain ⟨literal, digits, path, file, chunkSize, warmup, iterations, printConfig⟩ := b
  have hkeys := keys_of_parse? h
  dsimp only at hkeys ⊢
  cases literal with
  | some s =>
    obtain ⟨rfl, rfl⟩ : digits = none ∧ path = none := by simpa using hkeys
    exact .inr ⟨.text s, rfl⟩
  | none =>
    cases digits with
    | some s =>
      obtain rfl : path = none := by simpa using hkeys
      exact .inr ⟨.digits s, rfl⟩
    | none =>
      cases path with
      | some path => exact .inr ⟨.file path, rfl⟩
      | none => exact .inl rfl

/-- Whichever option gives a key, the command ends in the same way, and at other times still with
the same exit code and last line. Without an option it ends as with the text of the default key, and
more than one option is not understood. -/
theorem keys_agree (a : Arguments) (ha : a.Keyless) (key : Bytes) (t : FileTree) :
    (a.printConfig = false → ∀ o₁ o₂ : KeyOption, o₁.Gives t key → o₂.Gives t key →
      ∀ w : World, w.files = t →
        (inWorld (o₁.addTo a).perform w).1 = (inWorld (o₂.addTo a).perform w).1) ∧
    (a.printConfig = false → ∀ o : KeyOption, o.Gives t key →
      ∀ w : World, w.files = t → TimesFit a w →
        ∃ before w', inWorld (o.addTo a).perform w = (.ok (ending before
          ((a.settingsFor (.literal key)).inputs t)), w')) ∧
    (a.perform = ((KeyOption.text defaultKey).addTo a).perform ∧
      Hex.decodeOrFault defaultKey ≠ .ok (Utf8.encode defaultKey)) ∧
    ∀ arguments b, Arguments.parse? arguments = some b →
      (command arguments : Run Outcome) = b.perform ∧
        ∃ a' : Arguments, a'.Keyless ∧ (b = a' ∨ ∃ o : KeyOption, b = o.addTo a') := by
  refine ⟨?_, ?_, ⟨?_, ?_⟩, ?_⟩
  · rintro hprint o₁ o₂ h₁ h₂ w rfl
    rw [fst_inWorld_perform ha hprint h₁, fst_inWorld_perform ha hprint h₂]
  · rintro hprint o h w rfl hfit
    obtain ⟨before, hbefore⟩ : ∃ before,
        outcomeOf (answer ((a.settingsFor (.literal key)).inputs w.files)
          (Stats.ofSamples "hmac" (w.laps a.iterations))) =
            ending before ((a.settingsFor (.literal key)).inputs w.files) := by
      apply exists_outcomeOf_answer
      intro hvalidate
      obtain ⟨⟨hpos, hle⟩, hiterations, hlimit⟩ := (validate_eq_ok_iff _).mp hvalidate
      exact World.exists_summary hiterations (hfit hprint hpos hle hlimit)
    have hfst := fst_inWorld_perform ha hprint h
    rw [hbefore] at hfst
    exact ⟨before, _, Prod.ext hfst rfl⟩
  · have hsettings : a.settings = ((KeyOption.text defaultKey).addTo a).settings := by
      rw [Arguments.settings, Arguments.keySource, ha.keyLiteral, ha.keyHex, ha.keyFile]
      rfl
    have hexecute : (execute a : Run (List String)) =
        execute ((KeyOption.text defaultKey).addTo a) := by
      rw [execute, hsettings]
      rfl
    rw [Arguments.perform, Arguments.perform, Outcome.ofArguments, Outcome.ofArguments, hexecute]
  · decide +kernel
  · intro arguments b h
    refine ⟨?_, exists_keyless_of_parse? h⟩
    rw [command, h]
    rfl

/-- One key, as it is, by capital digits and in a file. -/
theorem keys_agree_tickingWorld :
    (∃ before w', inWorld (command ["--key-literal", "k"]) tickingWorld =
      (.ok (ending before (.ok ([0x6B], [0x61, 0x62, 0x63]))), w')) ∧
    (inWorld (command ["--key-literal", "k"]) tickingWorld).1 =
      (inWorld (command ["--key-hex", "0x6B"]) tickingWorld).1 ∧
    (inWorld (command ["--key-literal", "k"]) tickingWorld).1 =
      (inWorld (command ["--key-file=aes-gcm-key.bin"]) tickingWorld).1 := by
  obtain ⟨hsame, hends, -, hcommands⟩ := keys_agree {} ⟨rfl, rfl, rfl⟩ [0x6B] tickingWorld.files
  have htext : (KeyOption.text "k").Gives tickingWorld.files [0x6B] := by
    decide +kernel
  have hdigits : (KeyOption.digits "0x6B").Gives tickingWorld.files [0x6B] := by
    decide +kernel
  have hfile : (KeyOption.file (.ofString "aes-gcm-key.bin")).Gives tickingWorld.files [0x6B] := by
    decide +kernel
  have hparsetext : Arguments.parse? ["--key-literal", "k"] =
      some ((KeyOption.text "k").addTo {}) := by decide +kernel
  have hparsedigits : Arguments.parse? ["--key-hex", "0x6B"] =
      some ((KeyOption.digits "0x6B").addTo {}) := by decide +kernel
  have hparsefile : Arguments.parse? ["--key-file=aes-gcm-key.bin"] =
      some ((KeyOption.file (.ofString "aes-gcm-key.bin")).addTo {}) := by decide +kernel
  rw [(hcommands _ _ hparsetext).1, (hcommands _ _ hparsedigits).1, (hcommands _ _ hparsefile).1]
  refine ⟨?_, hsame rfl _ _ htext hdigits _ rfl, hsame rfl _ _ htext hfile _ rfl⟩
  have hinputs : Settings.inputs (Arguments.settingsFor {} (.literal [0x6B])) tickingWorld.files =
      .ok ([0x6B], [0x61, 0x62, 0x63]) := by decide +kernel
  rw [← hinputs]
  refine hends rfl _ htext _ rfl fun _ _ _ _ ↦ ?_
  decide +kernel

end CipherMeter.FileMac
