import Mathlib.Data.Nat.Notation

namespace CipherMeter.Except

variable {ε ε' α β : Type}

theorem bind_eq_ok_iff (x : Except ε α) (f : α → Except ε β) (b : β) :
    (x >>= f) = .ok b ↔ ∃ a, x = .ok a ∧ f a = .ok b := by
  cases x with
  | ok a => exact ⟨fun h ↦ ⟨a, rfl, h⟩, fun ⟨_, ha, h⟩ ↦ Except.ok.inj ha ▸ h⟩
  | error e => exact ⟨fun h ↦ (nomatch h), fun ⟨_, ha, _⟩ ↦ (nomatch ha)⟩

theorem bind_eq_error_iff (x : Except ε α) (f : α → Except ε β) (e : ε) :
    (x >>= f) = .error e ↔ x = .error e ∨ ∃ a, x = .ok a ∧ f a = .error e := by
  cases x with
  | ok a =>
    refine ⟨fun h ↦ .inr ⟨a, rfl, h⟩, ?_⟩
    rintro (h | ⟨_, ha, h⟩)
    · cases h
    · exact Except.ok.inj ha ▸ h
  | error e' =>
    refine ⟨fun h ↦ .inl (Except.error.inj h ▸ rfl), ?_⟩
    rintro (h | ⟨_, ha, _⟩)
    · cases h
      rfl
    · cases ha

theorem map_eq_ok_iff (f : α → β) (x : Except ε α) (b : β) :
    x.map f = .ok b ↔ ∃ a, x = .ok a ∧ f a = b := by
  cases x <;> simp [Except.map]

theorem mapError_eq_ok_iff (f : ε → ε') (x : Except ε α) (a : α) :
    x.mapError f = .ok a ↔ x = .ok a := by
  cases x with
  | ok b =>
    constructor <;> intro h <;> cases h <;> rfl
  | error e =>
    constructor <;> intro h <;> cases h

theorem map_eq_error_iff (f : α → β) (x : Except ε α) (e : ε) :
    x.map f = .error e ↔ x = .error e := by
  cases x with
  | ok a =>
    constructor <;> intro h <;> cases h
  | error e' =>
    constructor <;> intro h <;> cases h <;> rfl

theorem mapError_eq_error_iff (f : ε → ε') (x : Except ε α) (e : ε') :
    x.mapError f = .error e ↔ ∃ e', x = .error e' ∧ f e' = e := by
  cases x with
  | ok a =>
    constructor
    · intro h
      cases h
    · rintro ⟨_, h, _⟩
      cases h
  | error e' =>
    constructor
    · intro h
      cases h
      exact ⟨e', rfl, rfl⟩
    · rintro ⟨_, h, rfl⟩
      cases h
      rfl

theorem exists_eq_error_iff (x : Except ε α) : (∃ e, x = .error e) ↔ ¬∃ a, x = .ok a := by
  cases x with
  | ok a => exact ⟨fun ⟨_, h⟩ ↦ (nomatch h), fun h ↦ absurd ⟨a, rfl⟩ h⟩
  | error e => exact ⟨fun _ ⟨_, h⟩ ↦ (nomatch h), fun _ ↦ ⟨e, rfl⟩⟩

/-- A fold that succeeds does so with any step that succeeds where the first one does. -/
theorem foldlM_eq_ok_of_forall {f g : β → α → Except ε β}
    (h : ∀ b a c, f b a = .ok c → g b a = .ok c) (as : List α) {b c : β}
    (hf : as.foldlM f b = .ok c) : as.foldlM g b = .ok c := by
  induction as generalizing b with
  | nil => exact hf
  | cons a as ih =>
    rw [List.foldlM_cons, bind_eq_ok_iff] at hf ⊢
    obtain ⟨d, hd, hc⟩ := hf
    exact ⟨d, h b a d hd, ih hc⟩

/-- Related values on both sides, or the same error. -/
inductive LiftRel (R : α → β → Prop) : Except ε α → Except ε β → Prop
  | ok {a : α} {b : β} : R a b → LiftRel R (.ok a) (.ok b)
  | error (e : ε) : LiftRel R (.error e) (.error e)

namespace LiftRel

variable {R : α → β → Prop} {x : Except ε α} {y : Except ε β}

theorem refl {R : α → α → Prop} (hR : ∀ a, R a a) (x : Except ε α) : LiftRel R x x := by
  cases x with
  | ok a => exact .ok (hR a)
  | error e => exact .error e

theorem mapError (h : LiftRel R x y) (f : ε → ε') : LiftRel R (x.mapError f) (y.mapError f) := by
  cases h with
  | ok h => exact .ok h
  | error e => exact .error (f e)

theorem map {α' β' : Type} {S : α' → β' → Prop} (h : LiftRel R x y) {f : α → α'} {g : β → β'}
    (hfg : ∀ a b, R a b → S (f a) (g b)) : LiftRel S (x.map f) (y.map g) := by
  cases h with
  | ok h => exact .ok (hfg _ _ h)
  | error e => exact .error e

theorem bind {α' β' : Type} {S : α' → β' → Prop} (h : LiftRel R x y) {f : α → Except ε α'}
    {g : β → Except ε β'} (hfg : ∀ a b, R a b → LiftRel S (f a) (g b)) :
    LiftRel S (x >>= f) (y >>= g) := by
  cases h with
  | ok h => exact hfg _ _ h
  | error e => exact .error e

theorem map_eq {γ : Type} (h : LiftRel R x y) {f : α → γ} {g : β → γ}
    (hfg : ∀ a b, R a b → f a = g b) : x.map f = y.map g := by
  cases h with
  | ok h => exact congrArg Except.ok (hfg _ _ h)
  | error e => rfl

end LiftRel

end CipherMeter.Except
