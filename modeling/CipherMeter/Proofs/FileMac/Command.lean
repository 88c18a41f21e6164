import CipherMeter.FileMac.Command
import CipherMeter.Proofs.FileMac.Report
import CipherMeter.Proofs.FileMac.Settings
import CipherMeter.Proofs.Measurement

namespace CipherMeter.FileMac

open Run

section

variable {β : Type} {w : World}

theorem not_crashes_loadKey_bind {source : KeySource} {f : MacKey → Run β}
    (hf : ∀ key es, ¬ Crashes (f key) (w.note es)) : ¬ Crashes (loadKey source >>= f) w := by
  cases source with
  | literal key =>
    refine not_crashes_bind (not_crashes_of_ok (inWorld_pure ..)) fun _ _ h ↦ ?_
    cases h
    have hkey := hf ⟨key⟩ []
    rwa [World.note, List.append_nil] at hkey
  | file path =>
    rw [loadKey, bind_assoc]
    exact not_crashes_read_bind fun key _ ↦ hf ⟨key⟩ _

theorem not_crashes_stream_bind {mac : Mac} {path : Path} {chunkSize : ℕ} {f : ℕ × Mac → Run β}
    (hf : ∀ p, ¬ Crashes (f p) w) : ¬ Crashes (stream mac path chunkSize >>= f) w := by
  have hread : inWorld (Host.readFile path : Run (Except IoError Bytes)) w =
      (.ok (w.files.read path), w) := rfl
  rw [stream, bind_assoc]
  refine not_crashes_bind (not_crashes_of_ok hread) fun contents _ h ↦ ?_
  cases h
  rw [bind_assoc]
  refine not_crashes_orIoFault_bind fun contents _ ↦ ?_
  dsimp only
  rw [bind_assoc]
  exact not_crashes_orIoFault_bind fun count _ ↦ hf _

end

/-- The code of a file crashes only if its times overflow. -/
theorem not_crashes_run (s : Settings) (w : World)
    (hfit : s.validate = .ok () → Stats.Fits "hmac" (w.laps s.iterations)) :
    ¬ Crashes (run s) w := by
  rw [run]
  refine not_crashes_orFault_bind fun _ hvalidate ↦ ?_
  refine not_crashes_orFault_bind fun sampler hsampler ↦ ?_
  obtain ⟨-, -, hiterations⟩ := Sampler.make_eq_ok_iff.mp hsampler
  have hfits := hfit hvalidate
  rw [← hiterations] at hfits
  refine not_crashes_loadKey_bind fun key es ↦ not_crashes_stream_bind fun p ↦ ?_
  refine not_crashes_record_bind ?_
  refine Sampler.not_crashes_runWithSetup_evaluate_bind (by simpa using hfits) fun finalize _ ↦ ?_
  exact not_crashes_record_bind (not_crashes_of_ok (inWorld_pure ..))

/-- The lines of a complete report. -/
def completeLines (s : Settings) (r : Report) : List String :=
  Stats.timingLines "calculate HMAC" "hmac" s.iterations r.finalize ++
    ["HMAC: " ++ Hex.encode r.digest.toList]

theorem lines_of_run {s : Settings} {w w' : World} {r : Report}
    (h : inWorld (run s) w = (.ok r, w')) : r.lines = completeLines s r := by
  simp only [run, inWorld_bind_eq_ok_iff, inWorld_orFault_eq_ok_iff] at h
  obtain ⟨-, _, ⟨-, rfl⟩, sampler, _, ⟨hsampler, rfl⟩, key, w₁, -, ⟨count, mac⟩, w₂, -, _, w₃, -,
    ⟨digest, finalize⟩, w₄, hrounds, _, w₅, -, h⟩ := h
  cases h
  obtain ⟨-, hfinalize, -⟩ := (Sampler.inWorld_runWithSetup_evaluate_eq_ok_iff ..).mp hrounds
  have hlines := Stats.lines_of_ofSamples "calculate HMAC" hfinalize
  rw [World.length_laps, (Sampler.make_eq_ok_iff.mp hsampler).2.2] at hlines
  exact congrArg (· ++ [_]) hlines

def measurement : Measurement Arguments Settings Report where
  settings := Arguments.settings
  printConfig := Arguments.printConfig
  echo := Settings.echo
  run := run
  lines := Report.lines

variable {a : Arguments} {s : Settings}

theorem settings_eq_ok_iff : a.settings = .ok s ↔ ∃ key, a.keySource = .ok key ∧
    s = ⟨key, a.file, a.chunkSize, a.warmup, a.iterations⟩ := by
  simp only [Arguments.settings, Except.map_eq_ok_iff, eq_comm (a := s)]

/-- The times that are measured for the arguments do not overflow. -/
def TimesFit (a : Arguments) (w : World) : Prop :=
  a.printConfig = false → 1 ≤ a.chunkSize → a.chunkSize ≤ maxChunkSize →
    a.iterations ≤ Sampler.maxIterations → Stats.Fits "hmac" (w.laps a.iterations)

/-- The key is given by hexadecimal digits that are badly formed. -/
def Malformed (a : Arguments) (f : Fault) : Prop :=
  a.keyLiteral = none ∧ ∃ digits, a.keyHex = some digits ∧ Hex.decodeOrFault digits = .error f

section

variable {given : List (String × OptionValue)} {m n : String}

theorem text?_eq_none (h : Options.has given n = false) : Options.text? given n = none := by
  rw [Options.has, Option.isSome_eq_false_iff, Option.isNone_iff_eq_none] at h
  rw [Options.text?, h]

theorem path?_eq_none (h : Options.has given n = false) : Options.path? given n = none := by
  rw [Options.has, Option.isSome_eq_false_iff, Option.isNone_iff_eq_none] at h
  rw [Options.path?, h]

/-- If at most one of some options is given, then no other than a given one. -/
theorem has_eq_false_of_ne {names : List String}
    (hcount : (names.filter (Options.has given)).length ≤ 1) (hm : m ∈ names) (hn : n ∈ names)
    (hne : m ≠ n) (h : Options.has given m = true) : Options.has given n = false := by
  by_contra hn'
  have hm : m ∈ names.filter (Options.has given) := List.mem_filter.mpr ⟨hm, h⟩
  have hn : n ∈ names.filter (Options.has given) :=
    List.mem_filter.mpr ⟨hn, eq_true_of_ne_false hn'⟩
  rcases hnames : names.filter (Options.has given) with - | ⟨k, - | ⟨l, ls⟩⟩
  · rw [hnames] at hm
    cases hm
  · rw [hnames, List.mem_singleton] at hm hn
    exact hne (hm.trans hn.symm)
  · rw [hnames, List.length_cons, List.length_cons] at hcount
    omega

end

/-- A key is given in one way at most. -/
theorem keys_of_parse? {arguments : List String} (h : Arguments.parse? arguments = some a) :
    (a.keyHex = none ∧ a.keyFile = none) ∨ (a.keyLiteral = none ∧ a.keyFile = none) ∨
      a.keyLiteral = none ∧ a.keyHex = none := by
  obtain ⟨given, -, h⟩ := Option.bind_eq_some_iff.mp h
  split at h
  · rename_i hcount
    cases h
    cases hliteral : Options.has given "key-literal" with
    | true =>
      refine .inl ⟨text?_eq_none ?_, path?_eq_none ?_⟩
      · exact has_eq_false_of_ne hcount (by decide) (by decide) (by decide) hliteral
      · exact has_eq_false_of_ne hcount (by decide) (by decide) (by decide) hliteral
    | false =>
      refine .inr ?_
      cases hhex : Options.has given "key-hex" with
      | true =>
        refine .inl ⟨text?_eq_none hliteral, path?_eq_none ?_⟩
        exact has_eq_false_of_ne hcount (by decide) (by decide) (by decide) hhex
      | false => exact .inr ⟨text?_eq_none hliteral, text?_eq_none hhex⟩
  · cases h

/-- A key is not given both as it is and by digits. -/
theorem keyLiteral_of_parse? {arguments : List String}
    (h : Arguments.parse? arguments = some a) {digits : String} (hdigits : a.keyHex = some digits) :
    a.keyLiteral = none := by
  rcases keys_of_parse? h with ⟨hhex, -⟩ | ⟨hliteral, -⟩ | ⟨hliteral, -⟩
  · rw [hhex] at hdigits
    cases hdigits
  · exact hliteral
  · exact hliteral

theorem conforms : measurement.Conforms "HMAC: "
    (fun a ↦ Outcome.ofArguments faultLabel execute (some a)) completeLines TimesFit Malformed
    (fun a₁ a₂ ↦ ∃ chunkSize iterations, a₂ = { a₁ with chunkSize, iterations }) := by
  refine .of_execute (fun _ ↦ rfl) ?_ (fun _ _ _ _ ↦ lines_of_run) ?_ ?_
  · intro a w s hfit hs hprint
    obtain ⟨key, -, rfl⟩ := settings_eq_ok_iff.mp hs
    refine not_crashes_run _ w fun hvalidate ↦ ?_
    obtain ⟨⟨hpos, hle⟩, -, hiterations⟩ := (validate_eq_ok_iff _).mp hvalidate
    exact hfit hprint hpos hle hiterations
  · rintro a f ⟨hliteral, digits, hdigits, hf⟩
    have hkey : a.keySource = .error f := by
      rw [Arguments.keySource, hliteral, hdigits]
      exact (Except.map_eq_error_iff ..).mpr hf
    exact ⟨(Except.map_eq_error_iff ..).mpr hkey, Hex.exitCode_of_decodeOrFault hf⟩
  · rintro a₁ _ ⟨chunkSize, iterations, rfl⟩
    refine ⟨rfl, (Except.LiftRel.refl (R := Eq) (fun _ ↦ rfl) _).map fun key _ h ↦ ?_⟩
    exact Settings.liftRel_echo (h ▸ rfl) rfl

end CipherMeter.FileMac
