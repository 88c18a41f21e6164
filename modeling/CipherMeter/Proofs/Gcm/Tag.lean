import CipherMeter.Gcm
import CipherMeter.Proofs.Bytes
import CipherMeter.Proofs.Gcm.Field

namespace CipherMeter

namespace Bytes

/-- Byte strings of one length are different, and all bytes in which they
differ lie in one block. -/
def DifferInBlock (a b : Bytes) : Prop :=
  a.length = b.length ∧ a ≠ b ∧ ∃ k, ∀ i : ℕ, a[i]? ≠ b[i]? → i / Block.size = k

theorem differInBlock_set (a : Bytes) (i : ℕ) (x : UInt8) (hi : i < a.length) (hx : x ≠ a[i]) :
    DifferInBlock a (a.set i x) := by
  refine ⟨List.length_set.symm, fun h ↦ hx ?_, i / Block.size, fun j hj ↦ ?_⟩
  · have hget := congrArg (·[i]?) h
    simpa [hi] using hget.symm
  · by_cases hij : i = j
    · rw [hij]
    · exact absurd (List.getElem?_set_ne hij).symm hj

/-- What surrounds the block in which two byte strings differ. Only the last
block may have fewer than 16 bytes. -/
theorem DifferInBlock.split {a b : Bytes} (h : DifferInBlock a b) :
    ∃ (j : ℕ) (u m n v : Bytes), a = u ++ (m ++ v) ∧ b = u ++ (n ++ v) ∧
      u.length = Block.size * j ∧ m.length = n.length ∧ m ≠ n ∧ m.length ≤ Block.size ∧
      (m.length = Block.size ∨ v = []) := by
  obtain ⟨hlen, hne, k, hk⟩ := h
  obtain ⟨i, hi⟩ : ∃ i : ℕ, a[i]? ≠ b[i]? := by
    by_contra! hall
    exact hne (List.ext_getElem? hall)
  have hik := hk i hi
  have hlt : i < a.length := by
    by_contra hge
    rw [List.getElem?_eq_none (by omega), List.getElem?_eq_none (by omega)] at hi
    exact hi rfl
  have hbefore : a.take (Block.size * k) = b.take (Block.size * k) := by
    apply List.ext_getElem?
    intro j
    rw [List.getElem?_take, List.getElem?_take]
    split
    · by_contra hj
      have hjk := hk j hj
      unfold Block.size at *
      omega
    · rfl
  have hafter : a.drop (Block.size * (k + 1)) = b.drop (Block.size * (k + 1)) := by
    apply List.ext_getElem?
    intro j
    rw [List.getElem?_drop, List.getElem?_drop]
    by_contra hj
    have hjk := hk _ hj
    unfold Block.size at *
    omega
  have hparts (c : Bytes) : c = c.take (Block.size * k) ++
      ((c.drop (Block.size * k)).take Block.size ++ c.drop (Block.size * (k + 1))) := by
    rw [Nat.mul_succ, ← List.drop_drop, List.take_append_drop, List.take_append_drop]
  refine ⟨k, a.take (Block.size * k), (a.drop (Block.size * k)).take Block.size,
    (b.drop (Block.size * k)).take Block.size, a.drop (Block.size * (k + 1)), hparts a, ?_, ?_,
    ?_, fun hm ↦ hne ?_, List.length_take_le _ _, ?_⟩
  · rw [hbefore, hafter]
    exact hparts b
  · rw [List.length_take]
    unfold Block.size at *
    omega
  · rw [List.length_take, List.length_take, List.length_drop, List.length_drop, hlen]
  · rw [hparts a, hparts b, hbefore, hafter, hm]
  · rw [List.length_take, List.length_drop, List.drop_eq_nil_iff]
    unfold Block.size at *
    omega

theorem blocks_append (j : ℕ) (a b : Bytes) (h : a.length = Block.size * j) :
    (a ++ b).blocks = (pieces Block.size j a).map Block.ofBytes ++ b.blocks := by
  rw [blocks, fill_append _ j a b h, wholePieces_append _ j (by decide) a _ h, List.map_append,
    blocks]

theorem length_fill (a : Bytes) (h₀ : 0 < a.length) (h : a.length ≤ Block.size) :
    (a.fill Block.size).length = Block.size := by
  rw [fill, List.length_append, length_zeros]
  unfold Block.size at *
  omega

theorem blocks_head (a b : Bytes) (h₀ : 0 < a.length) (h : a.length ≤ Block.size)
    (hb : a.length = Block.size ∨ b = []) :
    (a ++ b).blocks = Block.ofBytes (a.fill Block.size) :: b.blocks := by
  rcases hb with hb | rfl
  · have hfill : a.fill Block.size = a := by
      rw [fill, hb, Nat.mod_self, Nat.sub_zero, Nat.mod_self]
      exact List.append_nil a
    rw [blocks_append 1 a b (by rw [hb, Nat.mul_one]), pieces_one _ a hb, hfill]
    rfl
  · have hfill := length_fill a h₀ h
    rw [List.append_nil, blocks, wholePieces, hfill, Nat.div_self (by decide),
      pieces_one _ _ hfill]
    rfl

theorem fill_inj {a b : Bytes} (n : ℕ) (hlen : a.length = b.length) (h : a.fill n = b.fill n) :
    a = b := by
  rw [fill, fill, hlen] at h
  exact List.append_cancel_right h

theorem DifferInBlock.blocks {a b : Bytes} (h : DifferInBlock a b) :
    ∃ l x y r, a.blocks = l ++ x :: r ∧ b.blocks = l ++ y :: r ∧ x ≠ y := by
  obtain ⟨j, u, m, n, v, rfl, rfl, hu, hmn, hne, hle, hv⟩ := h.split
  have hpos : 0 < m.length := by
    rw [List.length_pos_iff]
    rintro rfl
    exact hne (List.length_eq_zero_iff.mp hmn.symm).symm
  have hm := blocks_head m v hpos hle hv
  have hn := blocks_head n v (hmn ▸ hpos) (hmn ▸ hle) (hmn ▸ hv)
  refine ⟨(pieces Block.size j u).map Block.ofBytes, Block.ofBytes (m.fill Block.size),
    Block.ofBytes (n.fill Block.size), v.blocks, ?_, ?_, fun hxy ↦ hne ?_⟩
  · rw [blocks_append j u _ hu, hm]
  · rw [blocks_append j u _ hu, hn]
  · apply fill_inj Block.size hmn
    have hbytes := congrArg Block.toBytes hxy
    rwa [Block.toBytes_ofBytes _ (length_fill m hpos hle),
      Block.toBytes_ofBytes _ (length_fill n (hmn ▸ hpos) (hmn ▸ hle))] at hbytes

end Bytes

namespace Gcm

/-- Two runs of the hash over the same blocks keep their distance, which grows
by one power of the key with each block. -/
theorem element_foldl (h y z : Block) (bs : List Block) :
    element (bs.foldl (fun y b ↦ mul (y ^^^ b) h) y) +
        element (bs.foldl (fun y b ↦ mul (y ^^^ b) h) z) =
      (element y + element z) * element h ^ bs.length := by
  induction bs generalizing y z with
  | nil => simp
  | cons b bs ih =>
    have hcancel : element b + element b = 0 := CharTwo.add_self_eq_zero _
    rw [List.foldl_cons, List.foldl_cons, ih, element_mul, element_mul, element_xor,
      element_xor, List.length_cons, pow_succ]
    linear_combination element h ^ (bs.length + 1) * hcancel

theorem element_hash (h : Block) (l : List Block) (x y : Block) (r : List Block) :
    element (hash h (l ++ x :: r)) + element (hash h (l ++ y :: r)) =
      (element x + element y) * element h ^ (r.length + 1) := by
  rw [hash, hash, List.foldl_append, List.foldl_append, List.foldl_cons, List.foldl_cons,
    element_foldl, element_mul, element_mul, element_xor, element_xor, pow_succ]
  have hcancel (z : AdjoinRoot modulus) : z + z = 0 := CharTwo.add_self_eq_zero z
  linear_combination element h ^ (r.length + 1) * hcancel (element (l.foldl _ 0))

theorem hash_eq_iff (h : Block) (l : List Block) {x y : Block} (hxy : x ≠ y) (r : List Block) :
    hash h (l ++ x :: r) = hash h (l ++ y :: r) ↔ h = 0#128 := by
  have hdiff := element_hash h l x y r
  have hne : element x + element y ≠ 0 := fun h0 ↦
    hxy (element_injective (CharTwo.add_eq_zero.mp h0))
  rw [← element_injective.eq_iff, ← CharTwo.add_eq_zero, hdiff, mul_eq_zero, or_iff_right hne,
    pow_eq_zero_iff (Nat.succ_ne_zero _), element_eq_zero_iff]

/-- A change inside one block of the associated data or of the ciphertext
changes one block of what the tag is computed from. -/
theorem hashedBlocks_differ {aad aad' a a' : Bytes}
    (h : aad.DifferInBlock aad' ∧ a = a' ∨ aad = aad' ∧ a.DifferInBlock a') :
    ∃ l x y r, hashedBlocks aad a = l ++ x :: r ∧ hashedBlocks aad' a' = l ++ y :: r ∧ x ≠ y := by
  have hlast : lengthBlock aad' a' = lengthBlock aad a := by
    rcases h with ⟨h, rfl⟩ | ⟨rfl, h⟩ <;> rw [lengthBlock, lengthBlock, h.1]
  rcases h with ⟨h, rfl⟩ | ⟨rfl, h⟩
  · obtain ⟨l, x, y, r, hx, hy, hxy⟩ := h.blocks
    refine ⟨l, x, y, r ++ (a.blocks ++ [lengthBlock aad a]), ?_, ?_, hxy⟩
    · rw [hashedBlocks, hx]
      simp only [List.append_assoc, List.cons_append]
    · rw [hashedBlocks, hy, hlast]
      simp only [List.append_assoc, List.cons_append]
  · obtain ⟨l, x, y, r, hx, hy, hxy⟩ := h.blocks
    refine ⟨aad.blocks ++ l, x, y, r ++ [lengthBlock aad a], ?_, ?_, hxy⟩
    · rw [hashedBlocks, hx]
      simp only [List.append_assoc, List.cons_append]
    · rw [hashedBlocks, hy, hlast]
      simp only [List.append_assoc, List.cons_append]

variable (E : Block → Block) (iv : BitVec 96)

theorem tag_eq_iff (aad a aad' a' : Bytes) :
    tag E iv aad a = tag E iv aad' a' ↔
      hash (E 0) (hashedBlocks aad a) = hash (E 0) (hashedBlocks aad' a') := by
  constructor
  · intro h
    have hxor := Block.toBytes_injective (congrArg Subtype.val h)
    exact (BitVec.xor_left_inj _).mp hxor
  · intro h
    rw [tag, tag, h]

theorem tag_eq_iff_of_differ {aad aad' a a' : Bytes}
    (h : aad.DifferInBlock aad' ∧ a = a' ∨ aad = aad' ∧ a.DifferInBlock a') :
    tag E iv aad a = tag E iv aad' a' ↔ E 0 = 0#128 := by
  obtain ⟨l, x, y, r, hx, hy, hxy⟩ := hashedBlocks_differ h
  rw [tag_eq_iff, hx, hy]
  exact hash_eq_iff _ l hxy r

end Gcm

end CipherMeter
