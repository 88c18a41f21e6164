import CipherMeter.Proofs.Except
import CipherMeter.Proofs.Run
import Mathlib.Logic.Basic

/-!
What the commands that measure have in common. Arguments give settings, and these are either echoed
or run; the outcome prints all of the lines or the fault, and nothing else.
-/

namespace CipherMeter

open Run

structure Measurement (α σ ρ : Type) where
  settings : α → Except Fault σ
  printConfig : α → Bool
  echo : σ → Except InputFlaw String
  run : σ → Run ρ
  lines : ρ → List String

namespace Measurement

variable {α σ ρ : Type} (m : Measurement α σ ρ)

def execute (a : α) : Run (List String) := do
  let s ← orFault (m.settings a)
  if m.printConfig a then return [← orFault ((m.echo s).mapError .invalidInput)]
  return m.lines (← m.run s)

/-- Why what the arguments ask for is refused: they give no settings, or these cannot be echoed, or
the run has a fault. -/
inductive Refuses (a : α) (w : World) : Fault → Prop
  | settings {f : Fault} : m.settings a = .error f → Refuses a w f
  | echo {s : σ} {flaw : InputFlaw} : m.settings a = .ok s → m.printConfig a = true →
      m.echo s = .error flaw → Refuses a w (.invalidInput flaw)
  | run {s : σ} {f : Fault} {w' : World} : m.settings a = .ok s → m.printConfig a = false →
      inWorld (m.run s) w = (.error (.fault f), w') → Refuses a w f

/-- All is printed that was asked for, the echo or the complete report. -/
inductive Completed (complete : σ → ρ → List String) (a : α) (w : World) : Outcome → Prop
  | echo {s : σ} {text : String} : m.settings a = .ok s → m.printConfig a = true →
      m.echo s = .ok text → Completed complete a w ⟨0, text ++ "\n"⟩
  | report {s : σ} {r : ρ} {w' : World} : m.settings a = .ok s → m.printConfig a = false →
      inWorld (m.run s) w = (.ok r, w') → Completed complete a w ⟨0, Outcome.unlines (complete s r)⟩

/-- Nothing is printed but one line with the fault, and the code tells whether a file is its
cause. -/
inductive Refused (label : String) (a : α) (w : World) : Outcome → Prop
  | io {path : Path} {e : IoError} : m.Refuses a w (.io path e) →
      Refused label a w ⟨74, label ++ (Fault.io path e).message ++ "\n"⟩
  | data {f : Fault} : m.Refuses a w f → (∀ path e, f ≠ .io path e) →
      Refused label a w ⟨65, label ++ f.message ++ "\n"⟩

/-- The outcome where the settings are shown instead of run. -/
def shown (label : String) (a : α) : Outcome :=
  match m.settings a with
  | .error f => .failure label (.fault f)
  | .ok s =>
    match m.echo s with
    | .ok text => .success [text]
    | .error flaw => .failure label (.fault (.invalidInput flaw))

/-- What is promised of a command with this measurement. It ends in exactly one of two ways; badly
formed hexadecimal digits are refused even where the settings are only shown, and what is shown
depends neither on the world nor on sizes and counts being in range. -/
structure Conforms (label : String) (command : α → Run Outcome) (complete : σ → ρ → List String)
    (TimesFit : α → World → Prop) (Malformed : α → Fault → Prop) (Resized : α → α → Prop) :
    Prop where
  ends (a : α) (w : World) : TimesFit a w → ∃ o w', inWorld (command a) w = (.ok o, w') ∧
    Xor (m.Completed complete a w o) (m.Refused label a w o)
  malformed (a : α) (f : Fault) : Malformed a f → ∀ w,
    inWorld (command a) w = (.ok ⟨65, label ++ f.message ++ "\n"⟩, w)
  shown (a₁ a₂ : α) : m.printConfig a₁ = true → Resized a₁ a₂ → ∃ o₁ o₂,
    (∀ w, inWorld (command a₁) w = (.ok o₁, w)) ∧ (∀ w, inWorld (command a₂) w = (.ok o₂, w)) ∧
      o₁.code = o₂.code ∧ (o₁.code = 0 ∨ o₁ = o₂)

section

variable {m} {a : α} {w : World} (label : String)

theorem unlines_singleton (line : String) : Outcome.unlines [line] = line ++ "\n" :=
  String.empty_append

theorem not_refused_of_completed {complete : σ → ρ → List String} {o : Outcome}
    (h : m.Completed complete a w o) : ¬ m.Refused label a w o := by
  intro hrefused
  cases h <;> cases hrefused

theorem refused_of_refuses {f : Fault} (h : m.Refuses a w f) :
    m.Refused label a w (.failure label (.fault f)) := by
  rw [Outcome.failure, unlines_singleton]
  cases f with
  | io path e => exact .io h
  | _ => exact .data h nofun

theorem inWorld_of_settings_error {f : Fault} (h : m.settings a = .error f) (w : World) :
    inWorld (Outcome.conclude label (m.execute a)) w = (.ok (.failure label (.fault f)), w) := by
  rw [inWorld_conclude, execute, inWorld_bind, inWorld_orFault, h]
  rfl

theorem inWorld_of_malformed {f : Fault} (h : m.settings a = .error f) (hcode : f.exitCode = 65)
    (w : World) : inWorld (Outcome.conclude label (m.execute a)) w =
      (.ok ⟨65, label ++ f.message ++ "\n"⟩, w) := by
  rw [inWorld_of_settings_error label h, Outcome.failure, hcode, unlines_singleton]

theorem inWorld_of_printConfig (h : m.printConfig a = true) (w : World) :
    inWorld (Outcome.conclude label (m.execute a)) w = (.ok (m.shown label a), w) := by
  cases hs : m.settings a with
  | error f => rw [inWorld_of_settings_error label hs, shown, hs]
  | ok s =>
    rw [inWorld_conclude, execute, inWorld_bind_of_ok _ (inWorld_orFault_of_ok w hs), if_pos h,
      shown, hs]
    dsimp only
    cases m.echo s <;> rfl

theorem inWorld_of_run {s : σ} (hs : m.settings a = .ok s) (h : m.printConfig a = false) :
    inWorld (Outcome.conclude label (m.execute a)) w = match inWorld (m.run s) w with
      | (.ok r, w') => (.ok (.success (m.lines r)), w')
      | (.error e, w') => (.ok (.failure label e), w') := by
  rw [inWorld_conclude, execute, inWorld_bind_of_ok _ (inWorld_orFault_of_ok w hs), h,
    if_neg Bool.false_ne_true, inWorld_bind]
  rcases inWorld (m.run s) w with ⟨e | r, w'⟩
  · rfl
  · rfl

/-- A run that does not crash leads to one of the two ends. -/
theorem exists_ending {complete : σ → ρ → List String}
    (hrun : ∀ s, m.settings a = .ok s → m.printConfig a = false → ¬ Crashes (m.run s) w)
    (hlines : ∀ s r w', inWorld (m.run s) w = (.ok r, w') → m.lines r = complete s r) :
    ∃ o w', inWorld (Outcome.conclude label (m.execute a)) w = (.ok o, w') ∧
      Xor (m.Completed complete a w o) (m.Refused label a w o) := by
  have hcompleted : ∀ {o}, m.Completed complete a w o →
      Xor (m.Completed complete a w o) (m.Refused label a w o) :=
    fun h ↦ .inl ⟨h, not_refused_of_completed label h⟩
  have hrefused : ∀ {o}, m.Refused label a w o →
      Xor (m.Completed complete a w o) (m.Refused label a w o) :=
    fun h ↦ .inr ⟨h, fun hc ↦ not_refused_of_completed label hc h⟩
  cases hs : m.settings a with
  | error f =>
    exact ⟨_, w, inWorld_of_settings_error label hs w,
      hrefused (refused_of_refuses label (.settings hs))⟩
  | ok s =>
    cases hprint : m.printConfig a with
    | true =>
      refine ⟨_, w, inWorld_of_printConfig label hprint w, ?_⟩
      rw [shown, hs]
      dsimp only
      cases hecho : m.echo s with
      | ok text =>
        refine hcompleted ?_
        dsimp only
        rw [Outcome.success, unlines_singleton]
        exact .echo hs hprint hecho
      | error flaw => exact hrefused (refused_of_refuses label (.echo hs hprint hecho))
    | false =>
      have hends := inWorld_of_run (w := w) label hs hprint
      rcases hw : inWorld (m.run s) w with ⟨(fault | crash) | r, w'⟩
      · rw [hw] at hends
        exact ⟨_, w', hends, hrefused (refused_of_refuses label (.run hs hprint hw))⟩
      · exact absurd ⟨crash, congrArg Prod.fst hw⟩ (hrun s hs hprint)
      · rw [hw] at hends
        dsimp only at hends
        refine ⟨_, w', hends, hcompleted ?_⟩
        rw [Outcome.success, hlines s r w' hw]
        exact .report hs hprint hw

/-- Settings that are refused together, and echoes that are, lead to the same code. -/
theorem shown_of_liftRel {a₁ a₂ : α}
    (h : Except.LiftRel (fun s₁ s₂ ↦ Except.LiftRel (fun _ _ ↦ True) (m.echo s₁) (m.echo s₂))
      (m.settings a₁) (m.settings a₂)) :
    (m.shown label a₁).code = (m.shown label a₂).code ∧
      ((m.shown label a₁).code = 0 ∨ m.shown label a₁ = m.shown label a₂) := by
  rw [shown, shown]
  generalize m.settings a₁ = x₁ at h
  generalize m.settings a₂ = x₂ at h
  cases h with
  | error f => exact ⟨rfl, .inr rfl⟩
  | @ok s₁ s₂ h =>
    dsimp only
    generalize m.echo s₁ = x₁ at h
    generalize m.echo s₂ = x₂ at h
    cases h with
    | error flaw => exact ⟨rfl, .inr rfl⟩
    | ok => exact ⟨rfl, .inl rfl⟩

theorem Conforms.of_execute {label : String} {command : α → Run Outcome}
    {complete : σ → ρ → List String} {TimesFit : α → World → Prop} {Malformed : α → Fault → Prop}
    {Resized : α → α → Prop} (hcommand : ∀ a, command a = Outcome.conclude label (m.execute a))
    (hrun : ∀ a w s, TimesFit a w → m.settings a = .ok s → m.printConfig a = false →
      ¬ Crashes (m.run s) w)
    (hlines : ∀ s w w' r, inWorld (m.run s) w = (.ok r, w') → m.lines r = complete s r)
    (hmalformed : ∀ a f, Malformed a f → m.settings a = .error f ∧ f.exitCode = 65)
    (hresized : ∀ a₁ a₂, Resized a₁ a₂ → m.printConfig a₂ = m.printConfig a₁ ∧
      Except.LiftRel (fun s₁ s₂ ↦ Except.LiftRel (fun _ _ ↦ True) (m.echo s₁) (m.echo s₂))
        (m.settings a₁) (m.settings a₂)) :
    m.Conforms label command complete TimesFit Malformed Resized where
  ends a w hfit := by
    rw [hcommand]
    exact exists_ending label (fun s ↦ hrun a w s hfit) fun s r w' ↦ hlines s w w' r
  malformed a f hf w := by
    obtain ⟨hsettings, hcode⟩ := hmalformed a f hf
    rw [hcommand]
    exact inWorld_of_malformed label hsettings hcode w
  shown a₁ a₂ hprint h := by
    obtain ⟨hprint₂, hrel⟩ := hresized a₁ a₂ h
    rw [hcommand, hcommand]
    exact ⟨_, _, inWorld_of_printConfig label hprint,
      inWorld_of_printConfig label (hprint₂.trans hprint), shown_of_liftRel label hrel⟩

end

end Measurement

end CipherMeter
