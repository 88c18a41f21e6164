import CipherMeter.FileMac
import CipherMeter.Proofs.Mac.Contents
import CipherMeter.Proofs.Sampling

namespace CipherMeter.FileMac

open Run

/-- The bytes of a key, read from a file if that is where it is. -/
def KeySource.supply (t : FileTree) : KeySource → Except Fault Bytes
  | .literal key => .ok key
  | .file path => (t.read path).mapError (.io path)

/-- What is noted down when the key is loaded. -/
def KeySource.loaded (key : Bytes) : KeySource → List Event
  | .literal _ => []
  | .file path => [.inputLoaded path key.length]

theorem inWorld_loadKey (source : KeySource) (w : World) {key : Bytes}
    (h : source.supply w.files = .ok key) :
    inWorld (loadKey source) w = (.ok ⟨key⟩, w.note (source.loaded key)) := by
  cases source with
  | literal key' =>
    cases h
    rw [KeySource.loaded, World.note, List.append_nil]
    rfl
  | file path =>
    have hread : w.files.read path = .ok key := (Except.mapError_eq_ok_iff ..).mp h
    rw [loadKey, inWorld_bind_of_ok _ (inWorld_read_of_ok w hread)]
    rfl

theorem validate_eq_ok_iff (s : Settings) :
    s.validate = .ok () ↔ (1 ≤ s.chunkSize ∧ s.chunkSize ≤ maxChunkSize) ∧
      1 ≤ s.iterations ∧ s.iterations ≤ Sampler.maxIterations := by
  unfold Settings.validate
  split
  · exact ⟨fun h ↦ (by cases h), fun h ↦ by omega⟩
  · split
    · exact ⟨fun h ↦ (by cases h), fun h ↦ by omega⟩
    · rw [and_iff_right ⟨by omega, by omega⟩, Settings.sampler, Sampler.make]
      split
      · exact ⟨fun h ↦ (by cases h), fun h ↦ by omega⟩
      · split
        · exact ⟨fun h ↦ (by cases h), fun h ↦ by omega⟩
        · exact ⟨fun _ ↦ by omega, fun _ ↦ rfl⟩

/-- A chunk that the settings admit can be addressed and fits into memory. -/
theorem maxChunkSize_le : maxChunkSize ≤ Bytes.addressLimit ∧ maxChunkSize ≤ Bytes.memoryLimit := by
  decide

theorem inWorld_stream (key : MacKey) (path : Path) {chunkSize : ℕ} (w : World) {contents : Bytes}
    (hpos : 1 ≤ chunkSize) (hle : chunkSize ≤ maxChunkSize)
    (hread : w.files.read path = .ok contents) :
    inWorld (stream (.ofKey key) path chunkSize) w =
      (.ok (contents.length, (Mac.ofKey key).update contents), w) := by
  have haddress := hle.trans maxChunkSize_le.1
  have hmemory := hle.trans maxChunkSize_le.2
  have hfile : inWorld (Host.readFile path : Run (Except IoError Bytes)) w =
      (.ok (w.files.read path), w) := rfl
  have hopen : inWorld (orIoFault path (w.files.read path)) w = (.ok contents, w) := by
    rw [hread]
    rfl
  rw [stream, inWorld_bind_of_ok _ hfile, inWorld_bind_of_ok _ hopen]
  dsimp only
  rw [Mac.outcome_absorb_ofBytes, if_neg (by omega), if_neg (by omega), if_neg (by omega),
    Mac.mac_absorb_ofBytes _ _ (Mac.ofKey_update_nil key) hpos haddress hmemory]
  rfl

/-- Settings that are admitted, with a key and a file that can be read, leave only the times to
decide: all rounds finalize the code of the whole file. -/
theorem inWorld_run_of_read {s : Settings} {w : World} {key contents : Bytes}
    (hvalidate : s.validate = .ok ()) (hkey : s.key.supply w.files = .ok key)
    (hread : w.files.read s.filePath = .ok contents) :
    inWorld (run s) w = match Stats.ofSamples "hmac" (w.laps s.iterations) with
      | .ok finalize => (.ok ⟨contents.length, finalize, Mac.ofMessage ⟨key⟩ contents⟩,
          (w.tick (2 * s.iterations)).note (s.key.loaded key ++
            [.inputStreamed contents.length s.chunkSize,
              .macDone contents.length finalize.median]))
      | .error e => (.error e, (w.tick (2 * s.iterations)).note (s.key.loaded key ++
          [.inputStreamed contents.length s.chunkSize])) := by
  obtain ⟨⟨hpos, hle⟩, hiterations, hlimit⟩ := (validate_eq_ok_iff s).mp hvalidate
  let sampler : Sampler := ⟨s.warmup, s.iterations, hiterations⟩
  have hsampler : s.sampler = .ok sampler := Sampler.make_eq_ok_iff.mpr ⟨hlimit, rfl, rfl⟩
  let w₁ := w.note (s.key.loaded key)
  let w₂ := w₁.note [.inputStreamed contents.length s.chunkSize]
  have hrounds := sampler.inWorld_runWithSetup_evaluate "hmac"
    ((Mac.ofKey ⟨key⟩).update contents) Mac.finalize w₂
  rw [run, inWorld_bind_of_ok _ (inWorld_orFault_of_ok w hvalidate),
    inWorld_bind_of_ok _ (inWorld_orFault_of_ok w hsampler),
    inWorld_bind_of_ok _ (inWorld_loadKey s.key w hkey),
    inWorld_bind_of_ok _ (inWorld_stream ⟨key⟩ s.filePath w₁ hpos hle hread)]
  dsimp only
  rw [inWorld_bind_of_ok _ (inWorld_record w₁ _), inWorld_bind, hrounds]
  simp only [w₂, w₁, sampler, World.laps_note]
  cases Stats.ofSamples "hmac" (w.laps s.iterations) with
  | ok finalize =>
    simp only [Except.map]
    rw [inWorld_bind_of_ok _ (inWorld_record _ _)]
    simp [Mac.ofMessage]
  | error e => simp [Except.map]

/-- Settings in range, a key and a file that can be read, and times that can be summed up. -/
structure Ready (s : Settings) (w : World) (key contents : Bytes) : Prop where
  one_le_chunkSize : 1 ≤ s.chunkSize
  chunkSize_le : s.chunkSize ≤ maxChunkSize
  one_le_iterations : 1 ≤ s.iterations
  iterations_le : s.iterations ≤ Sampler.maxIterations
  supply_key : s.key.supply w.files = .ok key
  read_file : w.files.read s.filePath = .ok contents
  times_fit : Stats.Fits "hmac" (w.laps s.iterations)

namespace Ready

variable {s : Settings} {w : World} {key contents : Bytes}

theorem validate_eq_ok (h : Ready s w key contents) : s.validate = .ok () :=
  (validate_eq_ok_iff s).mpr
    ⟨⟨h.one_le_chunkSize, h.chunkSize_le⟩, h.one_le_iterations, h.iterations_le⟩

/-- All rounds finalize the code of the whole file. -/
theorem inWorld_run (h : Ready s w key contents) :
    ∃ finalize, Stats.ofSamples "hmac" (w.laps s.iterations) = .ok finalize ∧
      inWorld (run s) w = (.ok ⟨contents.length, finalize, Mac.ofMessage ⟨key⟩ contents⟩,
        (w.tick (2 * s.iterations)).note (s.key.loaded key ++
          [.inputStreamed contents.length s.chunkSize,
            .macDone contents.length finalize.median])) := by
  obtain ⟨finalize, hfinalize⟩ := World.exists_summary h.one_le_iterations h.times_fit
  refine ⟨finalize, hfinalize, ?_⟩
  rw [inWorld_run_of_read h.validate_eq_ok h.supply_key h.read_file, hfinalize]

end Ready

/-- A file is reported with the code of its whole contents and with its length, whatever the chunks,
the rounds and the place of the key. -/
theorem report_of_ready (s : Settings) (w : World) (key contents : Bytes)
    (h : Ready s w key contents) :
    ∃ (r : Report) (w' : World), inWorld (run s) w = (.ok r, w') ∧
      r.digest = Mac.ofMessage ⟨key⟩ contents ∧ r.bytesRead = contents.length ∧
      r.finalize.count = s.iterations ∧
      ∀ (s₂ : Settings) (w₂ : World), Ready s₂ w₂ key contents →
        ∃ (r₂ : Report) (w₂' : World), inWorld (run s₂) w₂ = (.ok r₂, w₂') ∧
          r₂.digest = r.digest ∧ r₂.bytesRead = r.bytesRead := by
  obtain ⟨finalize, hfinalize, hrun⟩ := h.inWorld_run
  have hcount : finalize.count = s.iterations := by
    rw [Stats.count_of_ofSamples hfinalize, World.length_laps]
  refine ⟨_, _, hrun, rfl, rfl, hcount, fun s₂ w₂ h₂ ↦ ?_⟩
  obtain ⟨_, _, hrun₂⟩ := h₂.inWorld_run
  exact ⟨_, _, hrun₂, rfl, rfl⟩

/-- A key file and a file of three bytes, and a clock that shows one nanosecond more at each
reading. -/
def tickingWorld : World :=
  { World.still ⟨[([Utf8.encode Inputs.keyName], .file [0x6B]),
      ([Utf8.encode Inputs.plaintextName], .file [0x61, 0x62, 0x63])], []⟩ with
    clock := fun n ↦ (Duration.ofNanos? n).getD .zero }

theorem report_of_ready_tickingWorld : ∃ (r : Report) (w : World),
    inWorld (run ⟨.file (.ofString Inputs.keyName), .ofString Inputs.plaintextName, 2, 1, 2⟩)
      tickingWorld = (.ok r, w) ∧ r.digest = Mac.ofMessage ⟨[0x6B]⟩ [0x61, 0x62, 0x63] ∧
      r.bytesRead = 3 ∧ r.finalize.count = 2 := by
  obtain ⟨r, w, hrun, hdigest, hbytes, hcount, -⟩ := report_of_ready
    ⟨.file (.ofString Inputs.keyName), .ofString Inputs.plaintextName, 2, 1, 2⟩ tickingWorld
    [0x6B] [0x61, 0x62, 0x63]
    { one_le_chunkSize := by decide
      chunkSize_le := by decide
      one_le_iterations := by decide
      iterations_le := by decide
      supply_key := by decide +kernel
      read_file := by decide +kernel
      times_fit := by
        have hsort : Stats.sort (tickingWorld.laps 2) = tickingWorld.laps 2 :=
          List.mergeSort_of_pairwise (by decide +kernel)
        rw [Stats.Fits, Stats.ofSamples, hsort]
        decide +kernel }
  exact ⟨r, w, hrun, hdigest, hbytes, hcount⟩

end CipherMeter.FileMac
