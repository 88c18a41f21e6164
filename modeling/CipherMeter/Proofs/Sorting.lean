import Mathlib.Logic.Function.Defs

/-!
# Sorting by a key

What is sorted here is compared by a value of its own: digests and texts by their bytes, durations
by their nanoseconds.
-/

namespace CipherMeter

variable {α β : Type} [LE β] [DecidableLE β] [Std.IsLinearOrder β] {f : α → β} {as bs : List α}

theorem pairwise_mergeSort_on (f : α → β) (as : List α) :
    (as.mergeSort fun a b ↦ decide (f a ≤ f b)).Pairwise fun a b ↦ f a ≤ f b := by
  have htrans : ∀ a b c : α, decide (f a ≤ f b) = true → decide (f b ≤ f c) = true →
      decide (f a ≤ f c) = true := by
    intro a b c hab hbc
    rw [decide_eq_true_eq] at hab hbc ⊢
    exact Std.le_trans hab hbc
  have htotal : ∀ a b : α, (decide (f a ≤ f b) || decide (f b ≤ f a)) = true := by
    intro a b
    rw [Bool.or_eq_true, decide_eq_true_eq, decide_eq_true_eq]
    exact Std.le_total
  apply (List.pairwise_mergeSort htrans htotal as).imp
  intro a b h
  exact of_decide_eq_true h

/-- Where no two values have the same place in the order, there is only one way to sort them. -/
theorem eq_mergeSort_iff (hf : Function.Injective f) :
    bs = as.mergeSort (fun a b ↦ decide (f a ≤ f b)) ↔
      bs.Perm as ∧ bs.Pairwise fun a b ↦ f a ≤ f b := by
  have hperm := List.mergeSort_perm as fun a b ↦ decide (f a ≤ f b)
  constructor
  · intro h
    subst h
    exact ⟨hperm, pairwise_mergeSort_on f as⟩
  · intro ⟨hbs, hascending⟩
    apply (hbs.trans hperm.symm).eq_of_pairwise _ hascending (pairwise_mergeSort_on f as)
    intro a b _ _ hab hba
    exact hf (Std.le_antisymm hab hba)

end CipherMeter
