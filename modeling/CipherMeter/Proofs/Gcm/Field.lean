import CipherMeter.Gcm.Field
import Mathlib.FieldTheory.Finite.Extension
import Mathlib.Tactic.ComputeDegree

namespace CipherMeter.Gcm

open Polynomial

section Value

variable {R S : Type} [CommRing R] [CommRing S]

/-- The polynomial with the `n` lowest bits of a block as coefficients, the
highest of them constant, at `x`. -/
def valueBelow (x : R) (b : Block) : ℕ → R
  | 0 => 0
  | n + 1 => x * valueBelow x b n + if b.getLsbD n then 1 else 0

/-- The polynomial that a block stands for, at `x`. -/
def value (x : R) (b : Block) : R := valueBelow x b 128

theorem map_valueBelow (φ : R →+* S) (x : R) (b : Block) (n : ℕ) :
    φ (valueBelow x b n) = valueBelow (φ x) b n := by
  induction n with
  | zero => exact map_zero φ
  | succ n ih => simp only [valueBelow, map_add, map_mul, ih, apply_ite φ, map_one, map_zero]

theorem valueBelow_eq_zero (x : R) (b : Block) (n : ℕ) (h : ∀ i < n, b.getLsbD i = false) :
    valueBelow x b n = 0 := by
  induction n with
  | zero => rfl
  | succ n ih =>
    have hn := h n (Nat.lt_succ_self n)
    simp [valueBelow, ih (fun i hi ↦ h i (by omega)), hn]

theorem value_zero (x : R) : value x 0#128 = 0 :=
  valueBelow_eq_zero x 0 128 (fun _ _ ↦ BitVec.getLsbD_zero)

/-- A right shift drops the coefficient of the highest power. -/
theorem valueBelow_shift (x : R) (b : Block) (n : ℕ) :
    valueBelow x b (n + 1) = valueBelow x (b >>> 1) n + x ^ n * if b.getLsbD 0 then 1 else 0 := by
  induction n with
  | zero => simp [valueBelow]
  | succ n ih =>
    have hbit : (b >>> 1).getLsbD n = b.getLsbD (n + 1) := by
      rw [BitVec.getLsbD_ushiftRight, Nat.add_comm]
    rw [valueBelow, ih, valueBelow, hbit, pow_succ]
    ring

theorem value_reduction (x : R) : value x reduction = x ^ 7 + x ^ 2 + x + 1 := by
  have hlow : valueBelow x reduction 120 = 0 :=
    valueBelow_eq_zero x reduction 120 (by decide)
  have hstep (n : ℕ) : valueBelow x reduction (n + 1) =
      x * valueBelow x reduction n + if reduction.getLsbD n then 1 else 0 := rfl
  have hzero : ∀ n ∈ [121, 122, 123, 124], reduction.getLsbD n = false := by decide
  have hone : ∀ n ∈ [120, 125, 126, 127], reduction.getLsbD n = true := by decide
  simp only [List.mem_cons, List.not_mem_nil, or_false, forall_eq_or_imp, forall_eq] at hzero hone
  rw [value, hstep 127, hstep 126, hstep 125, hstep 124, hstep 123, hstep 122, hstep 121,
    hstep 120, hlow, hone.1, hone.2.1, hone.2.2.1, hone.2.2.2, hzero.1, hzero.2.1, hzero.2.2.1,
    hzero.2.2.2]
  simp only [if_true, Bool.false_eq_true, if_false]
  ring

/-- The polynomial `x` itself. -/
def indeterminate : Block := 1#128 <<< 126

/-- The constant polynomial one. -/
def unit : Block := 1#128 <<< 127

theorem value_unit (x : R) : value x unit = 1 := by
  have hlow : valueBelow x unit 127 = 0 := valueBelow_eq_zero x unit 127 (by decide)
  have htop : unit.getLsbD 127 = true := by decide
  rw [value, valueBelow, hlow, htop, if_pos rfl, mul_zero, zero_add]

theorem value_indeterminate (x : R) : value x indeterminate = x := by
  have hlow : valueBelow x indeterminate 126 = 0 :=
    valueBelow_eq_zero x indeterminate 126 (by decide)
  have hone : indeterminate.getLsbD 126 = true := by decide
  have hzero : indeterminate.getLsbD 127 = false := by decide
  rw [value, valueBelow, valueBelow, hlow, hone, hzero]
  simp

section Characteristic

variable [CharP R 2]

theorem valueBelow_xor (x : R) (a b : Block) (n : ℕ) :
    valueBelow x (a ^^^ b) n = valueBelow x a n + valueBelow x b n := by
  induction n with
  | zero => simp [valueBelow]
  | succ n ih =>
    have hbit : (if (a ^^^ b).getLsbD n then 1 else 0 : R) =
        (if a.getLsbD n then 1 else 0) + if b.getLsbD n then 1 else 0 := by
      rw [BitVec.getLsbD_xor]
      cases a.getLsbD n <;> cases b.getLsbD n <;> simp [CharTwo.add_self_eq_zero]
    rw [valueBelow, valueBelow, valueBelow, ih, hbit]
    ring

theorem value_xor (x : R) (a b : Block) : value x (a ^^^ b) = value x a + value x b :=
  valueBelow_xor x a b 128

variable (x : R) (hx : x ^ 128 = x ^ 7 + x ^ 2 + x + 1)
include hx

theorem value_timesX (b : Block) : value x (timesX b) = x * value x b := by
  have htop : valueBelow x b 129 = x * value x b := by
    have hb : b.getLsbD 128 = false := BitVec.getLsbD_of_ge b 128 le_rfl
    rw [valueBelow, hb, value]
    simp only [Bool.false_eq_true, if_false, add_zero]
  have hcarry : value x (if b.getLsbD 0 then reduction else 0) =
      x ^ 128 * if b.getLsbD 0 then 1 else 0 := by
    cases b.getLsbD 0 <;> simp [value_zero, value_reduction, hx]
  rw [timesX, value_xor, hcarry, ← htop, valueBelow_shift, value]

theorem value_mulHigh (a b : Block) (n : ℕ) :
    value x (mulHigh a b n) = valueBelow x a n * value x b := by
  induction n with
  | zero => simp [mulHigh, valueBelow, value_zero]
  | succ n ih =>
    have hterm : value x (if a.getLsbD n then b else 0) =
        (if a.getLsbD n then 1 else 0) * value x b := by
      cases a.getLsbD n <;> simp [value_zero]
    rw [mulHigh, value_xor, value_timesX x hx, ih, hterm, valueBelow]
    ring

theorem value_mul (a b : Block) : value x (mul a b) = value x a * value x b :=
  value_mulHigh x hx a b 128

/-- The power of a block whose exponent is the `n`-th power of two. -/
def square : ℕ → Block → Block
  | 0, b => b
  | n + 1, b => square n (mul b b)

theorem value_square (b : Block) (n : ℕ) : value x (square n b) = value x b ^ 2 ^ n := by
  induction n generalizing b with
  | zero => simp [square]
  | succ n ih => rw [square, ih, value_mul x hx, ← sq, ← pow_mul, pow_succ']

end Characteristic

end Value

/-- The polynomial that products of blocks are reduced by. -/
@[irreducible] noncomputable def modulus : (ZMod 2)[X] := X ^ 128 + (X ^ 7 + X ^ 2 + X + 1)

theorem modulus_monic : modulus.Monic := by
  unfold modulus
  apply monic_X_pow_add
  compute_degree!

theorem natDegree_modulus : modulus.natDegree = 128 := by
  unfold modulus
  compute_degree!

instance : CharP (AdjoinRoot modulus) 2 := by
  have hdeg : modulus.degree ≠ 0 := by
    rw [degree_eq_natDegree modulus_monic.ne_zero, natDegree_modulus]
    decide
  have : Nontrivial (AdjoinRoot modulus) := AdjoinRoot.nontrivial modulus hdeg
  exact charP_of_injective_algebraMap (algebraMap (ZMod 2) (AdjoinRoot modulus)).injective 2

theorem root_pow : AdjoinRoot.root modulus ^ 128 = AdjoinRoot.root modulus ^ 7 +
    AdjoinRoot.root modulus ^ 2 + AdjoinRoot.root modulus + 1 := by
  have hm : X ^ 128 + (X ^ 7 + X ^ 2 + X + 1) = modulus := by
    unfold modulus
    with_reducible rfl
  have h := (congrArg (AdjoinRoot.mk modulus) hm).trans AdjoinRoot.mk_self
  simp only [map_add, map_pow, map_one, AdjoinRoot.mk_X] at h
  exact CharTwo.add_eq_zero.mp h

/-- The residue of `x` to the power of `2 ^ 64`. -/
def halfway : Block := 0x6F9945A9E519A7229D4C1AD657F8A686#128

/-- The inverse of `halfway + x`. -/
def halfwayInverse : Block := 0x180DA934BF53158251C13DBB149F5279#128

theorem square_indeterminate : square 64 indeterminate = halfway := by decide +kernel

theorem square_halfway : square 64 halfway = indeterminate := by decide +kernel

theorem mul_halfwayInverse : mul (halfway ^^^ indeterminate) halfwayInverse = unit := by
  decide +kernel

theorem root_pow_halfway :
    AdjoinRoot.root modulus ^ 2 ^ 64 = value (AdjoinRoot.root modulus) halfway := by
  rw [← square_indeterminate, value_square _ root_pow, value_indeterminate]

theorem modulus_dvd : modulus ∣ X ^ 2 ^ (2 * 64) - X := by
  have hroot : AdjoinRoot.root modulus ^ 2 ^ (2 * 64) = AdjoinRoot.root modulus := by
    have h := value_square _ root_pow halfway 64
    rw [square_halfway, value_indeterminate, ← root_pow_halfway, ← pow_mul, ← pow_add,
      ← two_mul] at h
    exact h.symm
  rw [← AdjoinRoot.mk_eq_zero, map_sub, map_pow, AdjoinRoot.mk_X, hroot, sub_self]

theorem modulus_coprime : ∃ p, modulus ∣ (X ^ 2 ^ 64 - X) * p - 1 := by
  refine ⟨value X halfwayInverse, ?_⟩
  have hp : AdjoinRoot.mk modulus (value X halfwayInverse) =
      value (AdjoinRoot.root modulus) halfwayInverse := by
    rw [value, map_valueBelow, AdjoinRoot.mk_X, value]
  have h := value_mul _ root_pow (halfway ^^^ indeterminate) halfwayInverse
  rw [mul_halfwayInverse, value_unit, value_xor, value_indeterminate, ← root_pow_halfway,
    ← CharTwo.sub_eq_add] at h
  rw [← AdjoinRoot.mk_eq_zero, map_sub, map_mul, map_sub, map_pow, AdjoinRoot.mk_X, hp, ← h,
    map_one, sub_self]

/-- An irreducible factor of half the degree at most would have a degree that
divides `2 * n`, hence `n`, so that it also divided `x ^ 2 ^ n - x`, which has
an inverse modulo the polynomial. -/
theorem irreducible_of_frobenius {f p : (ZMod 2)[X]} {m n : ℕ} (hf : f.Monic) (hn : n = 2 ^ m)
    (hdeg : f.natDegree = 2 * n) (hfix : f ∣ X ^ 2 ^ (2 * n) - X)
    (hinv : f ∣ (X ^ 2 ^ n - X) * p - 1) : Irreducible f := by
  have hpos : 0 < n := hn ▸ Nat.two_pow_pos m
  have hne : f ≠ 1 := fun h ↦ by
    rw [h, natDegree_one] at hdeg
    omega
  rw [hf.irreducible_iff_lt_natDegree_lt hne]
  intro q hq hqdeg hdvd
  rw [hdeg, Finset.mem_Ioc] at hqdeg
  have hunit : ¬ IsUnit q := fun h ↦ by
    have h0 := natDegree_eq_zero_of_isUnit h
    omega
  obtain ⟨g, hg, hgq⟩ := WfDvdMonoid.exists_irreducible_factor hunit hq.ne_zero
  have hgf : g ∣ f := hgq.trans hdvd
  have hlarge : g.natDegree ∣ 2 * n := by
    apply hg.natDegree_dvd_of_dvd_X_pow_card_pow_sub_X
    simpa only [Nat.card_zmod] using hgf.trans hfix
  have hsmall : g.natDegree ∣ n := by
    have hle := natDegree_le_of_dvd hgq hq.ne_zero
    rw [hn, ← pow_succ'] at hlarge
    obtain ⟨k, hk, hgk⟩ := (Nat.dvd_prime_pow Nat.prime_two).mp hlarge
    have hkm : k ≤ m := by
      apply (Nat.pow_le_pow_iff_right (show 1 < 2 by decide)).mp
      omega
    rw [hgk, hn]
    exact pow_dvd_pow 2 hkm
  have hsub : g ∣ X ^ 2 ^ n - X := by
    simpa only [Nat.card_zmod] using hg.natDegree_dvd_iff_dvd_X_pow_card_pow_sub_X.mp hsmall
  have hone : g ∣ 1 := by
    have h := dvd_sub (hsub.mul_right p) (hgf.trans hinv)
    rwa [sub_sub_cancel] at h
  exact hg.not_isUnit (isUnit_of_dvd_one hone)

theorem modulus_irreducible : Irreducible modulus := by
  obtain ⟨p, hp⟩ := modulus_coprime
  exact irreducible_of_frobenius (m := 6) modulus_monic (by decide) natDegree_modulus modulus_dvd hp

instance : Fact (Irreducible modulus) := ⟨modulus_irreducible⟩

theorem coeff_valueBelow (b : Block) (n i : ℕ) :
    (valueBelow (X : (ZMod 2)[X]) b n).coeff i =
      if i < n ∧ b.getLsbD (n - 1 - i) then 1 else 0 := by
  induction n generalizing i with
  | zero => simp [valueBelow]
  | succ n ih =>
    cases i with
    | zero =>
      rw [valueBelow, coeff_add, coeff_X_mul_zero]
      cases hb : b.getLsbD n <;> simp [hb]
    | succ i =>
      have hconst : (if b.getLsbD n then 1 else 0 : (ZMod 2)[X]).coeff (i + 1) = 0 := by
        cases b.getLsbD n <;> simp [coeff_one]
      rw [valueBelow, coeff_add, coeff_X_mul, ih, hconst, add_zero]
      simp only [Nat.add_lt_add_iff_right, Nat.add_sub_cancel, Nat.sub_sub, Nat.add_comm 1 i]

theorem degree_value_lt (b : Block) : (value (X : (ZMod 2)[X]) b).degree < 128 := by
  refine (degree_lt_iff_coeff_zero _ 128).2 (fun i hi ↦ ?_)
  rw [value, coeff_valueBelow, if_neg (fun h ↦ by omega)]

theorem eq_zero_of_value_X (b : Block) (h : value (X : (ZMod 2)[X]) b = 0) : b = 0#128 := by
  apply BitVec.eq_of_getLsbD_eq
  intro i hi
  have hc := coeff_valueBelow b 128 (127 - i)
  rw [← value, h, coeff_zero, show 128 - 1 - (127 - i) = i by omega] at hc
  cases hb : b.getLsbD i with
  | false => rw [BitVec.getLsbD_zero]
  | true =>
    rw [hb, if_pos ⟨by omega, rfl⟩] at hc
    exact absurd hc zero_ne_one

theorem eq_zero_of_value_root (b : Block) (h : value (AdjoinRoot.root modulus) b = 0) :
    b = 0#128 := by
  have hmk : AdjoinRoot.mk modulus (value X b) = 0 := by
    rw [← h, value, map_valueBelow, AdjoinRoot.mk_X, value]
  apply eq_zero_of_value_X
  by_contra hne
  have hle := degree_le_of_dvd (AdjoinRoot.mk_eq_zero.mp hmk) hne
  rw [degree_eq_natDegree modulus_monic.ne_zero, natDegree_modulus] at hle
  exact absurd (degree_value_lt b) (not_lt_of_ge hle)

/-- The element of the field that a block stands for. -/
noncomputable def element (b : Block) : AdjoinRoot modulus := value (AdjoinRoot.root modulus) b

theorem element_xor (a b : Block) : element (a ^^^ b) = element a + element b :=
  value_xor _ a b

theorem element_mul (a b : Block) : element (mul a b) = element a * element b :=
  value_mul _ root_pow a b

theorem element_injective : Function.Injective element := by
  intro a b h
  have hzero : element (a ^^^ b) = 0 := by
    rw [element_xor, h, CharTwo.add_self_eq_zero]
  exact BitVec.xor_eq_zero_iff.mp (eq_zero_of_value_root _ hzero)

theorem element_eq_zero_iff (b : Block) : element b = 0 ↔ b = 0#128 :=
  ⟨eq_zero_of_value_root b, fun h ↦ h ▸ value_zero _⟩

end CipherMeter.Gcm
