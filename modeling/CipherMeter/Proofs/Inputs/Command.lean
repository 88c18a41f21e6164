import CipherMeter.Inputs.Command
import CipherMeter.Proofs.Inputs.Generation

namespace CipherMeter.Inputs

open Run

/-- The world in which a command generates inputs: a seed that is given starts the generator. -/
def Arguments.seeded (a : Arguments) (w : World) : Except Fault World :=
  match a.seed with
  | none => .ok w
  | some s => (readSeed s).map fun seed ↦ w.withGenerator (.ofSeed seed)

theorem inWorld_execute (a : Arguments) (memory : ℕ) (w : World) :
    inWorld (execute a memory) w = match a.seeded w with
      | .error fault => (.error (.fault fault), w)
      | .ok w₁ => match inWorld (generate a.directory a.keySize a.plaintextSize memory) w₁ with
        | (.ok paths, w₂) => (.ok paths.lines, w₂)
        | (.error e, w₂) => (.error e, w₂) := by
  have hgenerate (w₁ : World) : inWorld (do
      return (← generate a.directory a.keySize a.plaintextSize memory).lines) w₁ =
        match inWorld (generate a.directory a.keySize a.plaintextSize memory) w₁ with
        | (.ok paths, w₂) => (.ok paths.lines, w₂)
        | (.error e, w₂) => (.error e, w₂) := by
    rw [inWorld_bind]
    rcases inWorld (generate a.directory a.keySize a.plaintextSize memory) w₁ with
      ⟨e | paths, w₂⟩ <;> rfl
  rw [execute, Arguments.seeded]
  cases a.seed with
  | none => exact hgenerate w
  | some s =>
    dsimp only
    rw [inWorld_bind, inWorld_orFault]
    cases readSeed s with
    | error fault => rfl
    | ok seed => exact hgenerate (w.withGenerator (.ofSeed seed))

/-- A seed leaves the files alone. -/
theorem files_of_seeded {a : Arguments} {w w₁ : World} (h : a.seeded w = .ok w₁) :
    w₁.files = w.files := by
  unfold Arguments.seeded at h
  split at h
  · cases h
    rfl
  · obtain ⟨seed, -, rfl⟩ := (Except.map_eq_ok_iff ..).mp h
    rfl

theorem exitCode_of_readSeed {s : String} {fault : Fault} (h : readSeed s = .error fault) :
    fault.exitCode = 65 := by
  rcases (Except.bind_eq_error_iff ..).mp h with hdecode | ⟨a, -, hlength⟩
  · obtain ⟨e, -, rfl⟩ := (Except.mapError_eq_error_iff ..).mp hdecode
    rfl
  · split at hlength
    · cases hlength
    · cases hlength
      rfl

theorem exitCode_of_seeded {a : Arguments} {w : World} {fault : Fault}
    (h : a.seeded w = .error fault) : fault.exitCode = 65 := by
  unfold Arguments.seeded at h
  split at h
  · cases h
  · exact exitCode_of_readSeed ((Except.map_eq_error_iff ..).mp h)

/-- What a command makes of a generation. -/
def outcomeOf : Except Failure Paths → Outcome
  | .ok paths => .success paths.lines
  | .error e => .failure faultLabel e

section

variable {arguments : List String} {a : Arguments} (memory : ℕ) {w w₁ : World}

theorem inWorld_command_of_error (h : Arguments.parse? arguments = some a) {fault : Fault}
    (hseeded : a.seeded w = .error fault) :
    inWorld (command arguments memory) w = (.ok (.failure faultLabel (.fault fault)), w) := by
  rw [command, h, Outcome.ofArguments, inWorld_conclude, inWorld_execute, hseeded]

theorem inWorld_command_of_ok (h : Arguments.parse? arguments = some a)
    (hseeded : a.seeded w = .ok w₁) :
    inWorld (command arguments memory) w =
      (.ok (outcomeOf (inWorld (generate a.directory a.keySize a.plaintextSize memory) w₁).1),
        (inWorld (generate a.directory a.keySize a.plaintextSize memory) w₁).2) := by
  rw [command, h, Outcome.ofArguments, inWorld_conclude, inWorld_execute, hseeded]
  dsimp only
  rcases inWorld (generate a.directory a.keySize a.plaintextSize memory) w₁ with
    ⟨e | paths, w₂⟩ <;> rfl

end

/-- The ways in which a command with the given arguments ends. -/
inductive Ending (a : Arguments) (memory : ℕ) (w : World) : Outcome → World → Prop
  | badSeed {fault : Fault} : a.seeded w = .error fault →
    Ending a memory w (.failure faultLabel (.fault fault)) w
  | badKeySize {w₁ : World} : a.seeded w = .ok w₁ → Aes.KeySize.ofLength? a.keySize = none →
    Ending a memory w (.failure faultLabel (.fault (.invalidKeyLength a.keySize))) w₁
  | overflow {w₁ w₂ : World} {c : Crash} : a.seeded w = .ok w₁ →
    (Aes.KeySize.ofLength? a.keySize).isSome →
    Crash.ofAllocation? memory a.plaintextSize = some c →
    Ending a memory w (.failure faultLabel (.crash c)) w₂
  | done {w₁ w₂ : World} {paths : Paths} : a.seeded w = .ok w₁ →
    (Aes.KeySize.ofLength? a.keySize).isSome →
    Crash.ofAllocation? memory a.plaintextSize = none →
    Ending a memory w (.success paths.lines) w₂
  | failed {w₁ w₂ : World} {path : Path} {e : IoError} : a.seeded w = .ok w₁ →
    (Aes.KeySize.ofLength? a.keySize).isSome →
    Crash.ofAllocation? memory a.plaintextSize = none →
    Ending a memory w (.failure faultLabel (.fault (.io path e))) w₂

theorem exists_ending {arguments : List String} {a : Arguments}
    (h : Arguments.parse? arguments = some a) (memory : ℕ) (w : World) :
    ∃ o w', inWorld (command arguments memory) w = (.ok o, w') ∧ Ending a memory w o w' := by
  cases hseeded : a.seeded w with
  | error fault => exact ⟨_, _, inWorld_command_of_error memory h hseeded, .badSeed hseeded⟩
  | ok w₁ =>
    refine ⟨_, _, inWorld_command_of_ok memory h hseeded, ?_⟩
    rcases inWorld_generate_cases a.directory a.keySize a.plaintextSize memory w₁ with
      ⟨hkey, hrun⟩ | ⟨hkey, c, g, hcrash, hrun⟩ |
      ⟨hkey, hfits, ⟨w₂, hrun, -⟩ | ⟨_, name, _, _, e, w₂, -, hrun, -⟩⟩
    · rw [hrun]
      exact .badKeySize hseeded hkey
    · rw [hrun]
      exact .overflow hseeded hkey hcrash
    · rw [hrun]
      exact .done hseeded hkey hfits
    · rw [hrun]
      exact .failed hseeded hkey hfits

/-- Generation puts all three files into the directory, or those before one that cannot be written,
and touches nothing else; a command that finds fault with its arguments touches no file. -/
theorem files_of_generate (dir : Path) (keySize plaintextSize memory : ℕ) (w : World) :
    Effect dir keySize plaintextSize w (inWorld (generate dir keySize plaintextSize memory) w) ∧
    ∀ (arguments : List String) (a : Arguments), Arguments.parse? arguments = some a →
      ∃ o w', inWorld (command arguments memory) w = (.ok o, w') ∧
        (o.code = 65 ↔ (∃ fault, a.seeded w = .error fault) ∨
          Aes.KeySize.ofLength? a.keySize = none) ∧
        (o.code = 65 → w'.files = w.files) := by
  refine ⟨effect_generate dir keySize plaintextSize memory w, fun arguments a ha ↦ ?_⟩
  obtain ⟨o, w', hrun, hending⟩ := exists_ending ha memory w
  refine ⟨o, w', hrun, ?_⟩
  cases hending with
  | badSeed hseeded =>
    exact ⟨⟨fun _ ↦ .inl ⟨_, hseeded⟩, fun _ ↦ exitCode_of_seeded hseeded⟩, fun _ ↦ rfl⟩
  | badKeySize hseeded hkey =>
    exact ⟨⟨fun _ ↦ .inr hkey, fun _ ↦ rfl⟩, fun _ ↦ files_of_seeded hseeded⟩
  | @overflow w₁ w₂ c hseeded hsome =>
    rw [hseeded, or_iff_right nofun]
    have hkey := Option.isSome_iff_ne_none.mp hsome
    have hcode : c.exitCode ≠ 65 := by
      have hcodes := c.exitCode_eq
      omega
    exact ⟨⟨fun h ↦ absurd h hcode, fun h ↦ absurd h hkey⟩, fun h ↦ absurd h hcode⟩
  | done hseeded hsome | failed hseeded hsome =>
    rw [hseeded, or_iff_right nofun]
    have hkey := Option.isSome_iff_ne_none.mp hsome
    exact ⟨⟨nofun, fun h ↦ absurd h hkey⟩, nofun⟩

/-- A directory in which another one takes the place of the nonce. -/
def blockedWorld : World :=
  .still ⟨[([[0x64]], .directory), ([[0x64], Utf8.encode nonceName], .directory),
    ([[0x64], Utf8.encode plaintextName], .file [0x61, 0x62, 0x63])], []⟩

theorem files_of_generate_blockedWorld :
    (∃ e w', inWorld (generate (.ofString "d") 16 1) blockedWorld =
        (.error (.fault (.io (.ofString "d/aes-gcm-iv.bin") e)), w') ∧
      w'.files.read (.ofString "d/random_file") = .ok [0x61, 0x62, 0x63]) ∧
    ∃ o w', inWorld (command ["--key-size", "5"]) blockedWorld = (.ok o, w') ∧ o.code = 65 ∧
      w'.files = blockedWorld.files := by
  obtain ⟨heffect, hcommand⟩ :=
    files_of_generate (.ofString "d") 16 1 Bytes.memoryLimit blockedWorld
  constructor
  · have hrun : (inWorld (generate (.ofString "d") 16 1) blockedWorld).1 =
        .error (.fault (.io (.ofString "d/aes-gcm-iv.bin") .isADirectory)) := by decide +kernel
    rcases hw : inWorld (generate (.ofString "d") 16 1) blockedWorld with ⟨r, w'⟩
    rw [hw] at hrun heffect
    cases hrun
    refine ⟨_, w', rfl, ?_⟩
    rcases heffect with ⟨h, -⟩ | ⟨done, name, a, rest, e, hfiles, -, -, hrest⟩
    · cases h
    · -- the plaintext is the last of the files, and the last one is not done
      have hlast := congrArg List.getLast? hfiles
      rw [List.getLast?_append_of_ne_nil _ (List.cons_ne_nil _ _)] at hlast
      have hread : w'.files.read ((Path.ofString "d").join (Utf8.encode plaintextName)) =
          blockedWorld.files.read ((Path.ofString "d").join (Utf8.encode plaintextName)) :=
        hrest _ (List.mem_of_getLast? hlast.symm)
      have hjoin : (Path.ofString "d").join (Utf8.encode plaintextName) =
          .ofString "d/random_file" := by decide +kernel
      rw [← hjoin, hread]
      decide +kernel
  · have hparse : Arguments.parse? ["--key-size", "5"] = some { keySize := 5 } := by decide +kernel
    obtain ⟨o, w', hrun, hcode, hfiles⟩ := hcommand _ _ hparse
    have h65 := hcode.mpr (.inr rfl)
    exact ⟨o, w', hrun, h65, hfiles h65⟩

/-- Generation ends with this crash: the key size is not refused, but there is no room for the
plaintext. -/
def Overflows (keySize plaintextSize memory : ℕ) (c : Crash) : Prop :=
  (keySize = 16 ∨ keySize = 24 ∨ keySize = 32) ∧ c.LacksRoom memory plaintextSize

theorem overflows_iff {keySize plaintextSize memory : ℕ} {c : Crash} :
    Overflows keySize plaintextSize memory c ↔
      (Aes.KeySize.ofLength? keySize).isSome ∧
        Crash.ofAllocation? memory plaintextSize = some c := by
  rw [Overflows, Aes.KeySize.isSome_ofLength?_iff, Crash.ofAllocation?_eq_some_iff]

/-- A command that prints its paths or a fault, and has the exit code for it. -/
def Returned (o : Outcome) : Prop :=
  (∃ lines, o = .success lines ∧ o.code = 0) ∨
    ∃ fault, o = .failure faultLabel (.fault fault) ∧ (o.code = 65 ∨ o.code = 74)

theorem not_returned_of_crash (c : Crash) : ¬ Returned (.failure faultLabel (.crash c)) := by
  have hcode : (Outcome.failure faultLabel (.crash c)).code = c.exitCode := rfl
  have hcodes := c.exitCode_eq
  intro h
  rcases h with ⟨_, -, h⟩ | ⟨_, -, h⟩
  · omega
  · omega

theorem crashes_iff {dir : Path} {keySize plaintextSize memory : ℕ} {w : World} {c : Crash} :
    (∃ w', inWorld (generate dir keySize plaintextSize memory) w = (.error (.crash c), w')) ↔
      Overflows keySize plaintextSize memory c := by
  rw [overflows_iff]
  rcases inWorld_generate_cases dir keySize plaintextSize memory w with
    ⟨hkey, hrun⟩ | ⟨hkey, c', g, hcrash, hrun⟩ |
      ⟨-, hfits, ⟨w₂, hrun, -⟩ | ⟨_, name, _, _, e, w₂, -, hrun, -⟩⟩
  · rw [hrun, hkey]
    exact ⟨nofun, nofun⟩
  · rw [hrun, hcrash]
    constructor
    · intro ⟨w', h⟩
      cases h
      exact ⟨hkey, rfl⟩
    · intro ⟨_, h⟩
      cases h
      exact ⟨_, rfl⟩
  all_goals
    rw [hrun, hfits]
    exact ⟨nofun, nofun⟩

namespace Ending

variable {a : Arguments} {memory : ℕ} {w w' : World} {o : Outcome}

theorem returned_or (h : Ending a memory w o w') :
    (Returned o ∧ ¬ ((∃ w₁, a.seeded w = .ok w₁) ∧
        ∃ c, Overflows a.keySize a.plaintextSize memory c)) ∨
      ∃ c w₁, o = .failure faultLabel (.crash c) ∧ a.seeded w = .ok w₁ ∧
        Overflows a.keySize a.plaintextSize memory c := by
  simp only [overflows_iff]
  cases h with
  | badSeed hseeded =>
    rw [hseeded]
    exact .inl ⟨.inr ⟨_, rfl, .inl (exitCode_of_seeded hseeded)⟩, nofun⟩
  | badKeySize hseeded hkey =>
    rw [hkey]
    exact .inl ⟨.inr ⟨_, rfl, .inl rfl⟩, nofun⟩
  | overflow hseeded hkey hcrash => exact .inr ⟨_, _, rfl, hseeded, hkey, hcrash⟩
  | done _ _ hfits =>
    rw [hfits]
    exact .inl ⟨.inl ⟨_, rfl, rfl⟩, nofun⟩
  | failed _ _ hfits =>
    rw [hfits]
    exact .inl ⟨.inr ⟨_, rfl, .inr rfl⟩, nofun⟩

end Ending

/-- The plaintext alone makes generation crash, if it cannot be addressed or memory has no room for
it: then a command ends with the exit code of the crash. In all other cases it prints the paths or a
fault, with one of three exit codes. -/
theorem returns_iff (dir : Path) (keySize plaintextSize memory : ℕ) (w : World) :
    (∀ c, (∃ w', inWorld (generate dir keySize plaintextSize memory) w =
        (.error (.crash c), w')) ↔ Overflows keySize plaintextSize memory c) ∧
    ∀ (arguments : List String) (a : Arguments), Arguments.parse? arguments = some a →
      ∃ o w', inWorld (command arguments memory) w = (.ok o, w') ∧
        (Returned o ↔ ¬ ((∃ w₁, a.seeded w = .ok w₁) ∧
          ∃ c, Overflows a.keySize a.plaintextSize memory c)) ∧
        ∀ c, (∃ w₁, a.seeded w = .ok w₁) → Overflows a.keySize a.plaintextSize memory c →
          o = ⟨c.exitCode, ""⟩ := by
  refine ⟨fun _ ↦ crashes_iff, fun arguments a ha ↦ ?_⟩
  obtain ⟨o, w', hrun, hending⟩ := exists_ending ha memory w
  refine ⟨o, w', hrun, ?_⟩
  rcases hending.returned_or with ⟨hreturned, hnone⟩ | ⟨c, w₁, rfl, hseeded, hoverflows⟩
  · exact ⟨⟨fun _ ↦ hnone, fun _ ↦ hreturned⟩, fun c hs hc ↦ absurd ⟨hs, c, hc⟩ hnone⟩
  · constructor
    · exact iff_of_false (not_returned_of_crash c) (not_not_intro ⟨⟨w₁, hseeded⟩, c, hoverflows⟩)
    · intro c' _ hoverflows'
      have hcrash := (overflows_iff.mp hoverflows).2
      rw [(overflows_iff.mp hoverflows').2] at hcrash
      cases hcrash
      rfl

/-- The least count of bytes that cannot be addressed, and half of it, which memory has no
room for. -/
theorem returns_iff_blockedWorld :
    (∃ w', inWorld (generate (.ofString "d") 16 9223372036854775808) blockedWorld =
      (.error (.crash .capacity), w')) ∧
    (∃ w', inWorld (generate (.ofString "d") 16 4611686018427387904) blockedWorld =
      (.error (.crash (.outOfMemory 4611686018427387904)), w')) ∧
    (∃ w', inWorld (command ["--plaintext-size", "9223372036854775808"]) blockedWorld =
      (.ok ⟨101, ""⟩, w')) ∧
    ∃ w', inWorld (command ["--plaintext-size", "4611686018427387904"]) blockedWorld =
      (.ok ⟨134, ""⟩, w') := by
  have hcommand (text : String) (size : ℕ) (c : Crash)
      (hparse : Arguments.parse? ["--plaintext-size", text] = some { plaintextSize := size })
      (hoverflows : Overflows 32 size Bytes.memoryLimit c) :
      ∃ w', inWorld (command ["--plaintext-size", text]) blockedWorld =
        (.ok ⟨c.exitCode, ""⟩, w') := by
    obtain ⟨-, hcommands⟩ := returns_iff (.ofString "d") 16 0 Bytes.memoryLimit blockedWorld
    obtain ⟨o, w', hrun, -, hcode⟩ := hcommands _ _ hparse
    rw [hcode c ⟨_, rfl⟩ hoverflows] at hrun
    exact ⟨w', hrun⟩
  have hfar : Overflows 32 9223372036854775808 Bytes.memoryLimit .capacity :=
    ⟨.inr (.inr rfl), Nat.le_refl _⟩
  have hlarge : Overflows 32 4611686018427387904 Bytes.memoryLimit
      (.outOfMemory 4611686018427387904) :=
    ⟨.inr (.inr rfl), rfl, by decide, by decide⟩
  refine ⟨?_, ?_, hcommand _ _ _ (by decide +kernel) hfar,
    hcommand _ _ _ (by decide +kernel) hlarge⟩
  · exact ((returns_iff _ _ _ _ _).1 _).mpr ⟨.inl rfl, hfar.2⟩
  · exact ((returns_iff _ _ _ _ _).1 _).mpr ⟨.inl rfl, hlarge.2⟩

end CipherMeter.Inputs
