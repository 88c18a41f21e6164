import CipherMeter.World
import CipherMeter.Inputs
import CipherMeter.Outcome
import Mathlib.Data.Nat.Notation

namespace CipherMeter

namespace World

/-- A world in which nothing has happened, with a clock that stands still. -/
def still (files : FileTree) : World where
  files
  clock _ := .zero
  readings := 0
  generator := .ofSeed ⟨List.replicate 32 0, rfl⟩
  journal := []

/-- The world after events were noted. -/
def note (w : World) (es : List Event) : World := { w with journal := w.journal ++ es }

/-- The world after the clock was read `n` times. -/
def tick (w : World) (n : ℕ) : World := { w with readings := w.readings + n }

@[simp] theorem files_note (w : World) (es : List Event) : (w.note es).files = w.files := rfl

@[simp] theorem note_nil (w : World) : w.note [] = w := by rw [note, List.append_nil]

@[simp] theorem note_note (w : World) (es fs : List Event) :
    (w.note es).note fs = w.note (es ++ fs) := by
  rw [note, note, note, List.append_assoc]

@[simp] theorem tick_tick (w : World) (m n : ℕ) : (w.tick m).tick n = w.tick (m + n) := by
  rw [tick, tick, tick, Nat.add_assoc]

/-- Time and notes do not meet. -/
@[simp] theorem tick_note (w : World) (es : List Event) (n : ℕ) :
    (w.note es).tick n = (w.tick n).note es := rfl

end World

namespace Run

variable {α β : Type} (w w' : World)

@[simp] theorem inWorld_pure (a : α) : inWorld (pure a) w = (.ok a, w) := rfl

theorem inWorld_bind (c : Run α) (f : α → Run β) :
    inWorld (c >>= f) w = match inWorld c w with
      | (.ok a, w₁) => inWorld (f a) w₁
      | (.error e, w₁) => (.error e, w₁) := by
  rw [inWorld, inWorld, ExceptT.run_bind, StateT.run_bind]
  rcases StateT.run c.run w with ⟨e | a, w₁⟩
  · rfl
  · rfl

theorem inWorld_bind_of_ok {c : Run α} {a : α} (f : α → Run β) {w w' : World}
    (h : inWorld c w = (.ok a, w')) : inWorld (c >>= f) w = inWorld (f a) w' := by
  rw [inWorld_bind, h]

theorem inWorld_bind_eq_ok_iff (c : Run α) (f : α → Run β) (b : β) :
    inWorld (c >>= f) w = (.ok b, w') ↔
      ∃ a w₁, inWorld c w = (.ok a, w₁) ∧ inWorld (f a) w₁ = (.ok b, w') := by
  rw [inWorld_bind]
  constructor
  · intro h
    split at h
    · rename_i a w₁ hc
      exact ⟨a, w₁, hc, h⟩
    · cases h
  · rintro ⟨a, w₁, hc, h⟩
    rw [hc]
    exact h

theorem inWorld_orFault (x : Except Fault α) :
    inWorld (orFault x) w = (x.mapError Failure.fault, w) := by
  cases x <;> rfl

theorem inWorld_orFail (x : Except Failure α) : inWorld (orFail x) w = (x, w) := by
  cases x <;> rfl

theorem inWorld_record (e : Event) : inWorld (Host.record e) w = (.ok (), w.note [e]) := rfl

theorem inWorld_now : inWorld Clock.now w = (.ok (w.clock w.readings), w.tick 1) := rfl

theorem inWorld_evaluate (f : Unit → α) : inWorld (Clock.evaluate f) w = (.ok (f ()), w) := rfl

theorem inWorld_read (path : Path) :
    inWorld (Inputs.read path) w = match w.files.read path with
      | .ok a => (.ok a, w.note [.inputLoaded path a.length])
      | .error e => (.error (.fault (.io path e)), w) := by
  have hfile : inWorld (Host.readFile path) w = (.ok (w.files.read path), w) := rfl
  rw [Inputs.read, inWorld_bind, hfile]
  cases w.files.read path <;> rfl

theorem inWorld_orFault_of_ok {x : Except Fault α} {a : α} (h : x = .ok a) :
    inWorld (orFault x) w = (.ok a, w) := by
  rw [h]
  rfl

theorem inWorld_read_of_ok {path : Path} {a : Bytes} (h : w.files.read path = .ok a) :
    inWorld (Inputs.read path) w = (.ok a, w.note [.inputLoaded path a.length]) := by
  rw [inWorld_read, h]

theorem inWorld_orFault_eq_ok_iff (x : Except Fault α) (a : α) :
    inWorld (orFault x) w = (.ok a, w') ↔ x = .ok a ∧ w' = w := by
  rw [inWorld_orFault]
  cases x with
  | ok b =>
    constructor
    · intro h
      cases h
      exact ⟨rfl, rfl⟩
    · rintro ⟨h, rfl⟩
      cases h
      rfl
  | error e => exact ⟨fun h ↦ (nomatch h), fun h ↦ (nomatch h.1)⟩

theorem inWorld_read_eq_ok_iff (path : Path) (a : Bytes) :
    inWorld (Inputs.read path) w = (.ok a, w') ↔
      w.files.read path = .ok a ∧ w' = w.note [.inputLoaded path a.length] := by
  rw [inWorld_read]
  cases w.files.read path with
  | ok b =>
    simp only [Prod.mk.injEq, Except.ok.injEq]
    exact ⟨fun ⟨h, hw⟩ ↦ ⟨h, h ▸ hw.symm⟩, fun ⟨h, hw⟩ ↦ ⟨h, h ▸ hw.symm⟩⟩
  | error e => simp

theorem inWorld_tryCatch (c : Run α) (handle : Failure → Run α) :
    inWorld (tryCatch c handle) w = match inWorld c w with
      | (.ok a, w₁) => (.ok a, w₁)
      | (.error e, w₁) => inWorld (handle e) w₁ := by
  change ((ExceptT.tryCatch c handle).run).run w = _
  rw [ExceptT.tryCatch, ExceptT.run_mk, StateT.run_bind]
  have hc : StateT.run c w = inWorld c w := rfl
  rw [hc]
  rcases inWorld c w with ⟨e | a, w₁⟩
  · rfl
  · rfl

/-- A command always has an outcome, which tells its lines or its failure. -/
theorem inWorld_conclude (label : String) (command : Run (List String)) :
    inWorld (Outcome.conclude label command) w = match inWorld command w with
      | (.ok lines, w₁) => (.ok (.success lines), w₁)
      | (.error e, w₁) => (.ok (.failure label e), w₁) := by
  rw [Outcome.conclude, inWorld_tryCatch, inWorld_bind]
  rcases inWorld command w with ⟨e | lines, w₁⟩ <;> rfl

/-- A run that ends with a crash. -/
def Crashes (c : Run α) (w : World) : Prop := ∃ crash, (inWorld c w).1 = .error (.crash crash)

section

variable {c : Run α} {a : α} {f : α → Run β} {w w' : World}

theorem Crashes.bind (h : Crashes c w) (f : α → Run β) : Crashes (c >>= f) w := by
  obtain ⟨crash, h⟩ := h
  refine ⟨crash, ?_⟩
  rw [inWorld_bind]
  rcases hc : inWorld c w with ⟨o, w'⟩
  rw [hc] at h
  cases h
  rfl

theorem Crashes.of_bind_ok (h : Crashes (f a) w') (hc : inWorld c w = (.ok a, w')) :
    Crashes (c >>= f) w := by
  obtain ⟨crash, h⟩ := h
  refine ⟨crash, ?_⟩
  rw [inWorld_bind_of_ok f hc, h]

theorem not_crashes_bind (hc : ¬ Crashes c w)
    (hf : ∀ a w', inWorld c w = (.ok a, w') → ¬ Crashes (f a) w') : ¬ Crashes (c >>= f) w := by
  rintro ⟨crash, h⟩
  rw [inWorld_bind] at h
  rcases hcw : inWorld c w with ⟨e | a, w'⟩
  · rw [hcw] at h
    cases h
    exact hc ⟨crash, congrArg Prod.fst hcw⟩
  · rw [hcw] at h
    exact hf a w' hcw ⟨crash, h⟩

theorem not_crashes_of_ok (h : inWorld c w = (.ok a, w')) : ¬ Crashes c w := by
  rintro ⟨crash, hcrash⟩
  rw [h] at hcrash
  cases hcrash

end

theorem not_crashes_orFault_bind {x : Except Fault α} {f : α → Run β} {w : World}
    (hf : ∀ a, x = .ok a → ¬ Crashes (f a) w) : ¬ Crashes (orFault x >>= f) w := by
  refine not_crashes_bind ?_ fun a w' h ↦ ?_
  · rintro ⟨crash, h⟩
    rw [inWorld_orFault] at h
    cases x <;> cases h
  · obtain ⟨ha, rfl⟩ := (inWorld_orFault_eq_ok_iff ..).mp h
    exact hf a ha

theorem not_crashes_orIoFault_bind {path : Path} {x : Except IoError α} {f : α → Run β} {w : World}
    (hf : ∀ a, x = .ok a → ¬ Crashes (f a) w) : ¬ Crashes (orIoFault path x >>= f) w := by
  cases x with
  | ok a =>
    refine not_crashes_bind (not_crashes_of_ok rfl) fun _ _ h ↦ ?_
    cases h
    exact hf a rfl
  | error e =>
    refine not_crashes_bind ?_ fun _ _ h ↦ nomatch h
    rintro ⟨crash, h⟩
    cases h

theorem not_crashes_read_bind {path : Path} {f : Bytes → Run β} {w : World}
    (hf : ∀ a, w.files.read path = .ok a →
      ¬ Crashes (f a) (w.note [.inputLoaded path a.length])) :
    ¬ Crashes (Inputs.read path >>= f) w := by
  refine not_crashes_bind ?_ fun a w' h ↦ ?_
  · rintro ⟨crash, h⟩
    rw [inWorld_read] at h
    cases hread : w.files.read path <;> rw [hread] at h <;> cases h
  · obtain ⟨ha, rfl⟩ := (inWorld_read_eq_ok_iff ..).mp h
    exact hf a ha

theorem not_crashes_record_bind {e : Event} {f : Unit → Run β} {w : World}
    (hf : ¬ Crashes (f ()) (w.note [e])) : ¬ Crashes (Host.record e >>= f) w := by
  refine not_crashes_bind (not_crashes_of_ok (inWorld_record w e)) fun _ _ h ↦ ?_
  cases h
  exact hf

end Run

end CipherMeter
