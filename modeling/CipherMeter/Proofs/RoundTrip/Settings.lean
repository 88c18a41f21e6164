import CipherMeter.Proofs.Text.Json
import CipherMeter.RoundTrip.Settings

/-!
What the echo of the settings of a round trip tells. All of it can be read back.
-/

namespace CipherMeter.RoundTrip.Settings

open Text

/-- The members of an echo, in their order. -/
def members (s : Settings) (key nonce plaintext : String) : List (String × EchoValue) := [
  ("key_path", .scalar (.text key)),
  ("iv_path", .scalar (.text nonce)),
  ("plaintext_path", .scalar (.text plaintext)),
  ("aad", .scalar (.text (Hex.encode s.aad))),
  ("warmup", .scalar (.number s.warmup)),
  ("iterations", .scalar (.number s.iterations)),
  ("tamper", .scalar (.flag s.tamper))]

/-- The settings with these members and no others, in this order. -/
def ofMembers? : List (String × EchoValue) → Option Settings
  | [("key_path", .scalar (.text key)), ("iv_path", .scalar (.text nonce)),
      ("plaintext_path", .scalar (.text plaintext)), ("aad", .scalar (.text aad)),
      ("warmup", .scalar (.number warmup)), ("iterations", .scalar (.number iterations)),
      ("tamper", .scalar (.flag tamper))] =>
    (Hex.decode aad).toOption.map fun aad ↦
      ⟨.ofString key, .ofString nonce, .ofString plaintext, aad, warmup, iterations, tamper⟩
  | _ => none

variable {s : Settings}

theorem ofMembers?_members {key nonce plaintext : String} (hkey : s.keyPath = .ofString key)
    (hnonce : s.noncePath = .ofString nonce) (hplaintext : s.plaintextPath = .ofString plaintext) :
    ofMembers? (s.members key nonce plaintext) = some s := by
  change (Hex.decode (Hex.encode s.aad)).toOption.map _ = some s
  rw [Hex.decode_encode, ← hkey, ← hnonce, ← hplaintext]
  rfl

theorem echo_eq_ok_iff (text : String) :
    s.echo = .ok text ↔ ∃ key nonce plaintext, s.keyPath = .ofString key ∧
      s.noncePath = .ofString nonce ∧ s.plaintextPath = .ofString plaintext ∧
      text = Text.echo (s.members key nonce plaintext) := by
  simp only [echo, Except.bind_eq_ok_iff, Path.textOrFlaw_eq_ok_iff]
  constructor
  · rintro ⟨key, hkey, nonce, hnonce, plaintext, hplaintext, htext⟩
    cases htext
    exact ⟨key, nonce, plaintext, hkey, hnonce, hplaintext, rfl⟩
  · rintro ⟨key, nonce, plaintext, hkey, hnonce, hplaintext, rfl⟩
    exact ⟨key, hkey, nonce, hnonce, plaintext, hplaintext, rfl⟩

theorem exists_echo_eq_ok_iff : (∃ text, s.echo = .ok text) ↔
    s.keyPath.IsText ∧ s.noncePath.IsText ∧ s.plaintextPath.IsText := by
  simp only [echo_eq_ok_iff, Path.IsText]
  tauto

theorem exists_echo_eq_error_iff : (∃ flaw, s.echo = .error flaw) ↔
    ¬s.keyPath.IsText ∨ ¬s.noncePath.IsText ∨ ¬s.plaintextPath.IsText := by
  rw [Except.exists_eq_error_iff, exists_echo_eq_ok_iff]
  tauto

theorem read?_echo {text : String} (h : s.echo = .ok text) :
    ∃ key nonce plaintext, s.keyPath = .ofString key ∧ s.noncePath = .ofString nonce ∧
      s.plaintextPath = .ofString plaintext ∧
      Json.read? text = some (s.members key nonce plaintext) := by
  obtain ⟨key, nonce, plaintext, hkey, hnonce, hplaintext, rfl⟩ := (echo_eq_ok_iff text).mp h
  exact ⟨key, nonce, plaintext, hkey, hnonce, hplaintext, Json.read?_echo _⟩

theorem bind_ofMembers?_echo {text : String} (h : s.echo = .ok text) :
    (Json.read? text).bind ofMembers? = some s := by
  obtain ⟨key, nonce, plaintext, hkey, hnonce, hplaintext, hread⟩ := read?_echo h
  rw [hread, Option.bind_some, ofMembers?_members hkey hnonce hplaintext]

/-- Whether settings can be echoed is a matter of their paths. -/
theorem liftRel_echo {s₁ s₂ : Settings} (hkey : s₁.keyPath = s₂.keyPath)
    (hnonce : s₁.noncePath = s₂.noncePath) (hplaintext : s₁.plaintextPath = s₂.plaintextPath) :
    Except.LiftRel (fun _ _ ↦ True) s₁.echo s₂.echo := by
  rw [echo, echo, hkey, hnonce, hplaintext]
  refine (Except.LiftRel.refl (R := Eq) (fun _ ↦ rfl) _).bind fun _ _ _ ↦ ?_
  refine (Except.LiftRel.refl (R := Eq) (fun _ ↦ rfl) _).bind fun _ _ _ ↦ ?_
  refine (Except.LiftRel.refl (R := Eq) (fun _ ↦ rfl) _).bind fun _ _ _ ↦ ?_
  exact .ok trivial

/-- Settings whose paths are text are echoed as their seven members, from which they can be told;
no others are echoed. -/
theorem echo_reads_back :
    (∀ s : Settings, (∃ flaw, s.echo = .error flaw) ↔
      ¬s.keyPath.IsText ∨ ¬s.noncePath.IsText ∨ ¬s.plaintextPath.IsText) ∧
    (∀ (s : Settings) (text : String), s.echo = .ok text →
      (∃ key nonce plaintext, s.keyPath = .ofString key ∧ s.noncePath = .ofString nonce ∧
        s.plaintextPath = .ofString plaintext ∧
        Json.read? text = some (s.members key nonce plaintext)) ∧
      (Json.read? text).bind ofMembers? = some s) ∧
    ∀ (s₁ s₂ : Settings) (text : String), s₁.echo = .ok text → s₂.echo = .ok text → s₁ = s₂ := by
  refine ⟨fun s ↦ exists_echo_eq_error_iff, fun s text h ↦ ⟨read?_echo h, bind_ofMembers?_echo h⟩,
    fun s₁ s₂ text h₁ h₂ ↦ ?_⟩
  have hsame := (bind_ofMembers?_echo h₁).symm.trans (bind_ofMembers?_echo h₂)
  exact Option.some.inj hsame

/-- A path that could be taken for the end of its text and the next member. -/
theorem echo_reads_back_quoted_path : ∃ text,
    ({ keyPath := .ofString "\",\n  \"iv_path\": \"\\" } : Settings).echo = .ok text ∧
      (Json.read? text).bind ofMembers? =
        some { keyPath := .ofString "\",\n  \"iv_path\": \"\\" } := by
  obtain ⟨-, hread, -⟩ := echo_reads_back
  have hecho := (echo_eq_ok_iff (s := { keyPath := .ofString "\",\n  \"iv_path\": \"\\" }) _).mpr
    ⟨_, _, _, rfl, rfl, rfl, rfl⟩
  exact ⟨_, hecho, (hread _ _ hecho).2⟩

end CipherMeter.RoundTrip.Settings
