import CipherMeter.Proofs.Except
import CipherMeter.Proofs.Run
import CipherMeter.Sampler

/-!
Operations that check their inputs in a fixed order before they go to work. A check finds a fault or
nothing, and the first fault that is found is the one that is told.
-/

namespace CipherMeter

/-- The error of an outcome that is one. -/
def Except.error? {ε α : Type} : Except ε α → Option ε
  | .ok _ => none
  | .error e => some e

theorem Except.error?_eq_none_iff {ε α : Type} {x : Except ε α} :
    error? x = none ↔ ∃ a, x = .ok a := by
  cases x <;> simp [error?]

theorem Except.error?_eq_some_iff {ε α : Type} {x : Except ε α} {e : ε} :
    error? x = some e ↔ x = .error e := by
  cases x <;> simp [error?]

/-- What a check finds. -/
abbrev Check := Option Fault

namespace Check

def require (p : Prop) [Decidable p] (fault : Fault) : Check := if p then none else some fault

def iterations (n : ℕ) : List Check :=
  [require (1 ≤ n) (.invalidInput .noIterations),
    require (n ≤ Sampler.maxIterations)
      (.invalidInput (.iterationsAbove Sampler.maxIterations n))]

def readable (t : FileTree) (path : Path) : Check :=
  Except.error? ((t.read path).mapError (.io path))

/-- A check of what a file holds, which finds nothing if it cannot be read. -/
def contents (t : FileTree) (path : Path) (check : Bytes → Check) : Check :=
  match t.read path with
  | .ok a => check a
  | .error _ => none

/-- The fault of the first check that finds one. -/
def first (checks : List Check) : Option Fault := checks.findSome? id

/-- The first fault that the checks find is the outcome, and there is a result just if they find
none. -/
structure Decide {α : Type} (checks : List Check) (o : Except Failure α) : Prop where
  error_iff : ∀ e, o = .error e ↔ ∃ fault, first checks = some fault ∧ e = .fault fault
  ok_iff : (∃ a, o = .ok a) ↔ ∀ check ∈ checks, check = none

theorem first_cons (check : Check) (checks : List Check) :
    first (check :: checks) = check.or (first checks) := by
  cases check <;> rfl

theorem first_append (checks₁ checks₂ : List Check) :
    first (checks₁ ++ checks₂) = (first checks₁).or (first checks₂) := by
  induction checks₁ with
  | nil => rfl
  | cons check checks₁ ih => rw [List.cons_append, first_cons, first_cons, ih, Option.or_assoc]

theorem first_eq_none_iff {checks : List Check} :
    first checks = none ↔ ∀ check ∈ checks, check = none := List.findSome?_eq_none_iff

theorem mem_of_first {checks : List Check} {fault : Fault} (h : first checks = some fault) :
    some fault ∈ checks := by
  obtain ⟨_, hmem, rfl⟩ := List.exists_of_findSome?_eq_some h
  exact hmem

theorem require_eq_none_iff {p : Prop} [Decidable p] {fault : Fault} :
    require p fault = none ↔ p := by
  unfold require
  split <;> simp [*]

theorem require_eq_some_iff {p : Prop} [Decidable p] {fault fault' : Fault} :
    require p fault = some fault' ↔ ¬ p ∧ fault' = fault := by
  unfold require
  split <;> simp [*, eq_comm]

theorem contents_of_read {t : FileTree} {path : Path} {a : Bytes} (check : Bytes → Check)
    (h : t.read path = .ok a) : contents t path check = check a := by
  rw [contents, h]

theorem contents_eq_some_iff {t : FileTree} {path : Path} {check : Bytes → Check} {fault : Fault} :
    contents t path check = some fault ↔ ∃ a, t.read path = .ok a ∧ check a = some fault := by
  unfold contents
  cases t.read path <;> simp

theorem readable_eq_none_iff {t : FileTree} {path : Path} :
    readable t path = none ↔ ∃ a, t.read path = .ok a := by
  simp only [readable, Except.error?_eq_none_iff, Except.mapError_eq_ok_iff]

theorem readable_eq_some_iff {t : FileTree} {path : Path} {fault : Fault} :
    readable t path = some fault ↔ ∃ e, t.read path = .error e ∧ fault = .io path e := by
  simp only [readable, Except.error?_eq_some_iff, Except.mapError_eq_error_iff,
    eq_comm (a := Fault.io _ _)]

/-- The checks of a number of iterations are those that a sampler makes. -/
theorem error?_make (warmup n : ℕ) :
    Except.error? (Sampler.make warmup n) = first (iterations n) := by
  rw [iterations, first_cons, first_cons, require, require, Sampler.make]
  by_cases hzero : n = 0
  · rw [dif_pos hzero, if_neg (by omega)]
    rfl
  · have hpos : 1 ≤ n := Nat.pos_of_ne_zero hzero
    rw [dif_neg hzero, if_pos hpos]
    by_cases habove : Sampler.maxIterations < n
    · rw [if_pos habove, if_neg (by omega)]
      rfl
    · rw [if_neg habove, if_pos (by omega)]
      rfl

theorem Decide.of_fault {α : Type} {checks : List Check} {fault : Fault}
    (h : first checks = some fault) : Decide checks (.error (.fault fault) : Except Failure α) where
  error_iff e := by
    constructor
    · intro he
      cases he
      exact ⟨fault, h, rfl⟩
    · rintro ⟨fault', h', rfl⟩
      cases h.symm.trans h'
      rfl
  ok_iff := by
    rw [← first_eq_none_iff, h]
    exact ⟨fun ⟨_, h⟩ ↦ (nomatch h), fun h ↦ (nomatch h)⟩

theorem Decide.of_ok {α : Type} {checks : List Check} (h : first checks = none) (a : α) :
    Decide checks (.ok a : Except Failure α) where
  error_iff e := by
    rw [h]
    exact ⟨fun h ↦ (nomatch h), fun ⟨_, h, _⟩ ↦ (nomatch h)⟩
  ok_iff := ⟨fun _ ↦ first_eq_none_iff.mp h, fun _ ↦ ⟨a, rfl⟩⟩

end Check

namespace Run

variable {α β : Type}

/-- A run fails with the first fault that the checks find, after it has noted something down at
most. -/
def FailsAt (checks : List Check) (c : Run α) (w : World) : Prop :=
  ∀ fault, Check.first checks = some fault →
    ∃ es, inWorld c w = (.error (.fault fault), w.note es)

namespace FailsAt

variable {checks found : List Check} {w : World}

theorem nil (c : Run α) (w : World) : FailsAt [] c w := fun _ h ↦ (nomatch h)

theorem orFault_bind {x : Except Fault α} {f : α → Run β}
    (hx : Except.error? x = Check.first found)
    (h : ∀ a, x = .ok a → FailsAt checks (f a) w) :
    FailsAt (found ++ checks) (orFault x >>= f) w := by
  intro fault hfault
  rw [Check.first_append, ← hx] at hfault
  cases x with
  | error e =>
    cases hfault
    refine ⟨[], ?_⟩
    rw [inWorld_bind, World.note_nil]
    rfl
  | ok a => exact h a rfl fault hfault

theorem read_bind {t : FileTree} {path : Path} {f : Bytes → Run β} (ht : w.files = t)
    (h : ∀ a, t.read path = .ok a →
      FailsAt checks (f a) (w.note [.inputLoaded path a.length])) :
    FailsAt (Check.readable t path :: checks) (Inputs.read path >>= f) w := by
  subst ht
  intro fault hfault
  rw [Check.first_cons, Check.readable] at hfault
  cases hread : w.files.read path with
  | error e =>
    rw [hread] at hfault
    cases hfault
    refine ⟨[], ?_⟩
    rw [inWorld_bind, inWorld_read, hread, World.note_nil]
  | ok a =>
    rw [hread] at hfault
    obtain ⟨es, hrun⟩ := h a hread fault hfault
    refine ⟨.inputLoaded path a.length :: es, ?_⟩
    rw [inWorld_bind_of_ok f (inWorld_read_of_ok w hread), hrun, World.note_note]
    rfl

end FailsAt

end Run

end CipherMeter
