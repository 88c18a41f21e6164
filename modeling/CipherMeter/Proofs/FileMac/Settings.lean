import CipherMeter.Proofs.Secrecy.FileMac
import CipherMeter.Proofs.Text.Json

/-!
What the echo and the debug text of the settings of the code of a file tell: of a literal key its
length, and everything else.
-/

namespace CipherMeter.FileMac

open Text

/-- A literal key is shown by its length. -/
theorem redacted_eq_iff (key₁ key₂ : Bytes) :
    redacted key₁ = redacted key₂ ↔ key₁.length = key₂.length := by
  constructor
  · intro h
    have hdigits : Nat.toDigits 10 key₁.length = Nat.toDigits 10 key₂.length := by
      have htexts : "<" ++ toString key₁.length ++ " bytes>" =
          "<" ++ toString key₂.length ++ " bytes>" := h
      rw [String.append_left_inj, String.append_right_inj, Nat.toString_eq_repr,
        Nat.toString_eq_repr] at htexts
      rw [← Nat.toList_repr, htexts, Nat.toList_repr]
    calc
      key₁.length = Nat.ofDigitChars 10 (Nat.toDigits 10 key₁.length) 0 :=
        Nat.ofDigitChars_ten_toDigits.symm
      _ = Nat.ofDigitChars 10 (Nat.toDigits 10 key₂.length) 0 := by rw [hdigits]
      _ = key₂.length := Nat.ofDigitChars_ten_toDigits
  · intro h
    rw [redacted, redacted, h]

namespace KeySource

theorem echo_eq_ok_iff (source : KeySource) (v : EchoValue) : source.echo = .ok v ↔
    (∃ key, source = .literal key ∧ v = .record [("literal", .text (redacted key))]) ∨
      ∃ s, source = .file (.ofString s) ∧ v = .record [("file", .text s)] := by
  cases source with
  | literal key =>
    simp [echo, eq_comm]
  | file path =>
    simp only [echo, Except.map_eq_ok_iff, Path.textOrFlaw_eq_ok_iff, reduceCtorEq, false_and,
      exists_false, false_or, file.injEq, eq_comm (a := v)]

theorem alike_literal_iff (key₁ key₂ : Bytes) :
    Alike (.literal key₁) (.literal key₂) ↔ key₁.length = key₂.length :=
  ⟨fun (.literal h) ↦ h, .literal⟩

theorem alike_file_iff (path₁ path₂ : Path) :
    Alike (.file path₁) (.file path₂) ↔ path₁ = path₂ :=
  ⟨fun (.file _) ↦ rfl, fun h ↦ h ▸ .file path₁⟩

theorem exists_echo_eq_error_iff (source : KeySource) : (∃ flaw, source.echo = .error flaw) ↔
    ∃ path, source = .file path ∧ ¬path.IsText := by
  rw [Except.exists_eq_error_iff]
  simp only [echo_eq_ok_iff]
  cases source with
  | literal key => simp
  | file path => simp [Path.IsText]

/-- Keys are echoed in the same way just if they have the same place and there the same length. -/
theorem echo_eq_echo_iff {source₁ source₂ : KeySource} {v₁ v₂ : EchoValue}
    (h₁ : source₁.echo = .ok v₁) (h₂ : source₂.echo = .ok v₂) :
    v₁ = v₂ ↔ source₁.Alike source₂ := by
  rcases (echo_eq_ok_iff ..).mp h₁ with ⟨key₁, rfl, rfl⟩ | ⟨s₁, rfl, rfl⟩
  · rcases (echo_eq_ok_iff ..).mp h₂ with ⟨key₂, rfl, rfl⟩ | ⟨s₂, rfl, rfl⟩
    · rw [alike_literal_iff, ← redacted_eq_iff]
      simp
    · exact ⟨fun h ↦ (by simp at h), nofun⟩
  · rcases (echo_eq_ok_iff ..).mp h₂ with ⟨key₂, rfl, rfl⟩ | ⟨s₂, rfl, rfl⟩
    · exact ⟨fun h ↦ (by simp at h), nofun⟩
    · rw [alike_file_iff, Path.ofString_injective.eq_iff]
      simp

theorem debug_eq_of_alike {source₁ source₂ : KeySource} (h : source₁.Alike source₂) :
    source₁.debug = source₂.debug := by
  cases h with
  | literal hlength => rw [debug, debug, (redacted_eq_iff _ _).mpr hlength]
  | file path => rfl

end KeySource

namespace Settings

variable {s : Settings}

/-- The members of an echo, in their order. -/
def members (s : Settings) (key : EchoValue) (file : String) : List (String × EchoValue) := [
  ("key", key),
  ("file_path", .scalar (.text file)),
  ("chunk_size", .scalar (.number s.chunkSize)),
  ("warmup", .scalar (.number s.warmup)),
  ("iterations", .scalar (.number s.iterations))]

theorem echo_eq_ok_iff (text : String) : s.echo = .ok text ↔ ∃ key file,
    s.key.echo = .ok key ∧ s.filePath = .ofString file ∧ text = Text.echo (s.members key file) := by
  simp only [echo, Except.bind_eq_ok_iff, Path.textOrFlaw_eq_ok_iff]
  constructor
  · rintro ⟨key, hkey, file, hfile, htext⟩
    cases htext
    exact ⟨key, file, hkey, hfile, rfl⟩
  · rintro ⟨key, file, hkey, hfile, rfl⟩
    exact ⟨key, hkey, file, hfile, rfl⟩

theorem exists_echo_eq_ok_iff :
    (∃ text, s.echo = .ok text) ↔ (∃ key, s.key.echo = .ok key) ∧ s.filePath.IsText := by
  simp only [echo_eq_ok_iff]
  constructor
  · rintro ⟨_, key, file, hkey, hfile, -⟩
    exact ⟨⟨key, hkey⟩, file, hfile⟩
  · rintro ⟨⟨key, hkey⟩, file, hfile⟩
    exact ⟨_, key, file, hkey, hfile, rfl⟩

theorem exists_echo_eq_error_iff : (∃ flaw, s.echo = .error flaw) ↔
    ¬s.filePath.IsText ∨ ∃ path, s.key = .file path ∧ ¬path.IsText := by
  rw [Except.exists_eq_error_iff, exists_echo_eq_ok_iff, ← KeySource.exists_echo_eq_error_iff,
    Except.exists_eq_error_iff]
  tauto

/-- Echoes are the same just if the settings are, up to the bytes of a literal key. -/
theorem echo_eq_iff {s₁ s₂ : Settings} {text₁ text₂ : String} (h₁ : s₁.echo = .ok text₁)
    (h₂ : s₂.echo = .ok text₂) : text₁ = text₂ ↔ s₁.filePath = s₂.filePath ∧
      s₁.chunkSize = s₂.chunkSize ∧ s₁.warmup = s₂.warmup ∧ s₁.iterations = s₂.iterations ∧
      s₁.key.Alike s₂.key := by
  obtain ⟨key₁, file₁, hkey₁, hfile₁, rfl⟩ := (echo_eq_ok_iff text₁).mp h₁
  obtain ⟨key₂, file₂, hkey₂, hfile₂, rfl⟩ := (echo_eq_ok_iff text₂).mp h₂
  rw [Json.echo_injective.eq_iff, hfile₁, hfile₂, Path.ofString_injective.eq_iff,
    ← KeySource.echo_eq_echo_iff hkey₁ hkey₂]
  simp [members]
  tauto

/-- Whether settings can be echoed is a matter of the key and the path. -/
theorem liftRel_echo {s₁ s₂ : Settings} (hkey : s₁.key = s₂.key)
    (hfile : s₁.filePath = s₂.filePath) : Except.LiftRel (fun _ _ ↦ True) s₁.echo s₂.echo := by
  rw [echo, echo, hkey, hfile]
  refine (Except.LiftRel.refl (R := Eq) (fun _ ↦ rfl) _).bind fun _ _ _ ↦ ?_
  refine (Except.LiftRel.refl (R := Eq) (fun _ ↦ rfl) _).bind fun _ _ _ ↦ ?_
  exact .ok trivial

/-- Of a literal key the echo tells the length and nothing else, and of the other settings all; the
debug text tells no more of the key. -/
theorem echo_eq_iff_alike :
    (∀ (s₁ s₂ : Settings) (text₁ text₂ : String), s₁.echo = .ok text₁ → s₂.echo = .ok text₂ →
      (text₁ = text₂ ↔ s₁.filePath = s₂.filePath ∧ s₁.chunkSize = s₂.chunkSize ∧
        s₁.warmup = s₂.warmup ∧ s₁.iterations = s₂.iterations ∧ s₁.key.Alike s₂.key)) ∧
    (∀ s : Settings, (∃ flaw, s.echo = .error flaw) ↔
      ¬s.filePath.IsText ∨ ∃ path, s.key = .file path ∧ ¬path.IsText) ∧
    ∀ (s : Settings) (key₁ key₂ : Bytes), key₁.length = key₂.length →
      { s with key := .literal key₁ }.debug = { s with key := .literal key₂ }.debug := by
  refine ⟨?_, ?_, ?_⟩
  · intro s₁ s₂ text₁ text₂ h₁ h₂
    exact echo_eq_iff h₁ h₂
  · intro s
    exact exists_echo_eq_error_iff
  · intro s key₁ key₂ hlength
    have hkey : (KeySource.literal key₁).debug = (KeySource.literal key₂).debug :=
      KeySource.debug_eq_of_alike (.literal hlength)
    unfold debug
    dsimp only
    rw [hkey]

/-- Two literal keys of one length, one of another, and a file named like what is shown of a key. -/
theorem echo_eq_iff_alike_literals : ∃ text₁ text₂ text₃ text₄,
    ({ key := .literal [1, 2] } : Settings).echo = .ok text₁ ∧
      ({ key := .literal [3, 4] } : Settings).echo = .ok text₂ ∧
      ({ key := .literal [1] } : Settings).echo = .ok text₃ ∧
      ({ key := .file (.ofString "<2 bytes>") } : Settings).echo = .ok text₄ ∧
      text₁ = text₂ ∧ text₁ ≠ text₃ ∧ text₁ ≠ text₄ ∧
      ({ key := .literal [1, 2] } : Settings).debug =
        ({ key := .literal [3, 4] } : Settings).debug := by
  obtain ⟨htexts, -, hdebug⟩ := echo_eq_iff_alike
  have hliteral : ∀ key, ∃ text, ({ key := .literal key } : Settings).echo = .ok text :=
    fun key ↦ exists_echo_eq_ok_iff.mpr ⟨⟨_, rfl⟩, _, rfl⟩
  obtain ⟨text₁, h₁⟩ := hliteral [1, 2]
  obtain ⟨text₂, h₂⟩ := hliteral [3, 4]
  obtain ⟨text₃, h₃⟩ := hliteral [1]
  obtain ⟨text₄, h₄⟩ : ∃ text,
      ({ key := .file (.ofString "<2 bytes>") } : Settings).echo = .ok text :=
    exists_echo_eq_ok_iff.mpr ⟨⟨_, (KeySource.echo_eq_ok_iff ..).mpr (.inr ⟨_, rfl, rfl⟩)⟩, _, rfl⟩
  refine ⟨text₁, text₂, text₃, text₄, h₁, h₂, h₃, h₄, ?_, ?_, ?_, hdebug {} _ _ rfl⟩
  · exact (htexts _ _ _ _ h₁ h₂).mpr ⟨rfl, rfl, rfl, rfl, .literal rfl⟩
  · intro h
    have hlength := (KeySource.alike_literal_iff ..).mp ((htexts _ _ _ _ h₁ h₃).mp h).2.2.2.2
    exact absurd hlength (by decide)
  · intro h
    nomatch ((htexts _ _ _ _ h₁ h₄).mp h).2.2.2.2

end Settings

end CipherMeter.FileMac
