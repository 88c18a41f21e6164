/-!
# Byte strings

Byte strings are lists of bytes. This module holds the operations on them that the ciphers, the
hash and the texts share: exclusive or, filling up to whole blocks, and numbers written in a fixed
count of bytes with the most significant one first or last.
-/

namespace CipherMeter

abbrev Bytes := List UInt8

namespace Bytes

/-- Byte by byte exclusive or, as long as the shorter of the two. -/
def xor (a b : Bytes) : Bytes := List.zipWith (· ^^^ ·) a b

/-- The most bytes that can be addressed together. -/
def addressLimit : Nat := 0x7FFFFFFFFFFFFFFF

/-- The most bytes that memory holds, less than can be addressed. -/
def memoryLimit : Nat := 0xFFFFFFFFFF

def zeros (n : Nat) : Bytes := List.replicate n 0

def fill (n : Nat) (a : Bytes) : Bytes := a ++ zeros ((n - a.length % n) % n)

def toNat (a : Bytes) : Nat := a.foldl (fun v b ↦ v * 256 + b.toNat) 0

def littleEndian : Nat → Nat → Bytes
  | 0, _ => []
  | n + 1, v => UInt8.ofNat v :: littleEndian n (v / 256)

def bigEndian (n v : Nat) : Bytes := (littleEndian n v).reverse

def pieces (n : Nat) : Nat → Bytes → List Bytes
  | 0, _ => []
  | k + 1, a => a.take n :: pieces n k (a.drop n)

/-- The byte string cut into pieces of `n` bytes; a shorter rest at the end is left out. -/
def wholePieces (n : Nat) (a : Bytes) : List Bytes := pieces n (a.length / n) a

theorem length_xor (a b : Bytes) : (xor a b).length = min a.length b.length := by
  simp [xor]

theorem xor_xor_cancel (a b : Bytes) (h : a.length ≤ b.length) : xor (xor a b) b = a := by
  induction a generalizing b with
  | nil => rfl
  | cons x a ih =>
    cases b with
    | nil => exact absurd h (Nat.not_succ_le_zero _)
    | cons y b =>
      have hxy : x ^^^ y ^^^ y = x := by rw [UInt8.xor_assoc, UInt8.xor_self, UInt8.xor_zero]
      have hab := ih b (Nat.le_of_succ_le_succ h)
      simp only [xor, List.zipWith_cons_cons] at hab ⊢
      rw [hxy, hab]

@[simp] theorem length_zeros (n : Nat) : (zeros n).length = n := by simp [zeros]

@[simp] theorem length_littleEndian (n v : Nat) : (littleEndian n v).length = n := by
  induction n generalizing v with
  | zero => rfl
  | succ n ih => simp [littleEndian, ih]

@[simp] theorem length_bigEndian (n v : Nat) : (bigEndian n v).length = n := by
  simp [bigEndian]

@[simp] theorem length_pieces (n k : Nat) (a : Bytes) : (pieces n k a).length = k := by
  induction k generalizing a with
  | zero => rfl
  | succ k ih => simp [pieces, ih]

end Bytes

end CipherMeter
