import CipherMeter.Block
import Mathlib.Data.List.Induction
import Mathlib.Algebra.Order.Ring.Nat

namespace CipherMeter

namespace Bytes

theorem xor_replicate (a : Bytes) (x : UInt8) :
    xor a (List.replicate a.length x) = a.map (· ^^^ x) := by
  induction a with
  | nil => rfl
  | cons y a ih =>
    rw [List.length_cons, List.replicate_succ, List.map_cons, ← ih]
    rfl

theorem toNat_concat (a : Bytes) (b : UInt8) :
    toNat (a ++ [b]) = toNat a * 256 + b.toNat := by
  simp only [toNat, List.foldl_append, List.foldl_cons, List.foldl_nil]

theorem littleEndian_mul_add (n v : ℕ) (b : UInt8) :
    littleEndian (n + 1) (v * 256 + b.toNat) = b :: littleEndian n v := by
  have hb := b.toNat_lt
  have hlow : UInt8.ofNat (v * 256 + b.toNat) = b := by
    apply UInt8.toNat_inj.mp
    rw [UInt8.toNat_ofNat']
    omega
  rw [littleEndian, hlow, show (v * 256 + b.toNat) / 256 = v by omega]

theorem bigEndian_toNat (a : Bytes) : bigEndian a.length a.toNat = a := by
  induction a using List.reverseRecOn with
  | nil => rfl
  | append_singleton a b ih =>
    rw [toNat_concat, List.length_append, List.length_singleton, bigEndian,
      littleEndian_mul_add, List.reverse_cons, ← bigEndian, ih]

theorem toNat_bigEndian (n v : ℕ) : toNat (bigEndian n v) = v % 256 ^ n := by
  induction n generalizing v with
  | zero => simp [bigEndian, littleEndian, toNat, Nat.mod_one]
  | succ n ih =>
    have hbyte : (UInt8.ofNat v).toNat = v % 256 := UInt8.toNat_ofNat'
    rw [bigEndian, littleEndian, List.reverse_cons, ← bigEndian, toNat_concat, ih, hbyte,
      pow_succ', Nat.mod_mul, Nat.add_comm, Nat.mul_comm]

theorem toNat_lt (a : Bytes) : a.toNat < 256 ^ a.length := by
  have h := toNat_bigEndian a.length a.toNat
  rw [bigEndian_toNat] at h
  rw [h]
  exact Nat.mod_lt _ (Nat.pow_pos (by decide))

theorem pieces_add (n j k : ℕ) (a : Bytes) :
    pieces n (j + k) a = pieces n j a ++ pieces n k (a.drop (n * j)) := by
  induction j generalizing a with
  | zero => rw [Nat.zero_add, Nat.mul_zero, List.drop_zero, pieces, List.nil_append]
  | succ j ih =>
    rw [Nat.add_right_comm, pieces, ih, List.drop_drop, pieces, List.cons_append,
      Nat.mul_succ, Nat.add_comm n]

theorem pieces_append_of_le (n j : ℕ) (a b : Bytes) (h : n * j ≤ a.length) :
    pieces n j (a ++ b) = pieces n j a := by
  induction j generalizing a with
  | zero => rfl
  | succ j ih =>
    rw [Nat.mul_succ] at h
    have hrest : n * j ≤ (a.drop n).length := by
      rw [List.length_drop]
      omega
    rw [pieces, pieces, List.take_append_of_le_length (by omega),
      List.drop_append_of_le_length (by omega), ih _ hrest]

theorem pieces_append (n j k : ℕ) (a b : Bytes) (h : a.length = n * j) :
    pieces n (j + k) (a ++ b) = pieces n j a ++ pieces n k b := by
  rw [pieces_add, pieces_append_of_le n j a b h.ge, List.drop_append_of_le_length h.ge,
    ← h, List.drop_length, List.nil_append]

theorem pieces_one (n : ℕ) (a : Bytes) (h : a.length = n) : pieces n 1 a = [a] := by
  rw [pieces, pieces, ← h, List.take_length]

theorem wholePieces_append (n j : ℕ) (hn : 0 < n) (a b : Bytes) (h : a.length = n * j) :
    wholePieces n (a ++ b) = pieces n j a ++ wholePieces n b := by
  have hcount : (a ++ b).length / n = j + b.length / n := by
    rw [List.length_append, h, Nat.mul_add_div hn]
  rw [wholePieces, hcount, pieces_append n j _ a b h, wholePieces]

/-- The bytes after the whole pieces. -/
def remainder (n : ℕ) (a : Bytes) : Bytes := a.drop (n * (a.length / n))

theorem take_append_remainder (n : ℕ) (a : Bytes) :
    a.take (n * (a.length / n)) ++ remainder n a = a :=
  List.take_append_drop _ a

theorem length_take_whole (n : ℕ) (a : Bytes) :
    (a.take (n * (a.length / n))).length = n * (a.length / n) := by
  rw [List.length_take, Nat.min_eq_left (Nat.mul_div_le _ _)]

/-- The remainder of a byte string goes into the pieces of what follows. -/
theorem wholePieces_append_remainder (n : ℕ) (hn : 0 < n) (a b : Bytes) :
    wholePieces n (a ++ b) = wholePieces n a ++ wholePieces n (remainder n a ++ b) := by
  have htake := pieces_append_of_le n (a.length / n) _ (remainder n a) (length_take_whole n a).ge
  rw [take_append_remainder, ← wholePieces] at htake
  conv_lhs => rw [← take_append_remainder n a, List.append_assoc]
  rw [wholePieces_append n _ hn _ _ (length_take_whole n a), ← htake]

theorem remainder_append (n : ℕ) (hn : 0 < n) (a b : Bytes) :
    remainder n (a ++ b) = remainder n (remainder n a ++ b) := by
  have hlen : (a ++ b).length / n = a.length / n + (remainder n a ++ b).length / n := by
    conv_lhs => rw [← take_append_remainder n a, List.append_assoc, List.length_append,
      length_take_whole, Nat.mul_add_div hn]
  have hdrop : (a ++ b).drop (n * (a.length / n)) = remainder n a ++ b :=
    List.drop_append_of_le_length (Nat.mul_div_le _ _)
  rw [remainder, hlen, Nat.mul_add, ← List.drop_drop, hdrop, ← remainder]

theorem fill_append (n j : ℕ) (a b : Bytes) (h : a.length = n * j) :
    fill n (a ++ b) = a ++ fill n b := by
  rw [fill, fill, List.length_append, h, Nat.mul_add_mod, List.append_assoc]

end Bytes

namespace Block

theorem toBytes_ofBytes (a : Bytes) (h : a.length = size) : (ofBytes a).toBytes = a := by
  have hlt : a.toNat < 2 ^ 128 := by
    have h' := Bytes.toNat_lt a
    rw [h] at h'
    exact h'
  have hnat : (ofBytes a).toNat = a.toNat := by
    rw [ofBytes, BitVec.toNat_ofNat, Nat.mod_eq_of_lt hlt]
  rw [toBytes, hnat, ← h, Bytes.bigEndian_toNat]

theorem ofBytes_toBytes (b : Block) : ofBytes b.toBytes = b := by
  apply BitVec.eq_of_toNat_eq
  rw [ofBytes, toBytes, Bytes.toNat_bigEndian, BitVec.toNat_ofNat]
  have hb := b.isLt
  have hsize : 256 ^ size = 2 ^ 128 := by decide
  rw [hsize, Nat.mod_mod, Nat.mod_eq_of_lt hb]

theorem toBytes_injective : Function.Injective toBytes :=
  Function.LeftInverse.injective ofBytes_toBytes

end Block

end CipherMeter
