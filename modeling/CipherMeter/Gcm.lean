import CipherMeter.Gcm.Field
import CipherMeter.FixedBytes

/-!
# Galois counter mode

Authenticated encryption over any function `E` on blocks, with nonces of 96 bits and tags of 128
bits: the text is added to a keystream of enciphered counters, and the tag is a polynomial in
`E 0` whose coefficients are the associated data, the ciphertext and their lengths, added to the
one counter that the keystream does not use.
-/

namespace CipherMeter

abbrev Tag := FixedBytes 16

structure Sealed where
  ciphertext : Bytes
  tag : Tag
  deriving DecidableEq

namespace Gcm

/-- The block of the counter `n`, of which 32 bits are kept. -/
def counterBlock (iv : BitVec 96) (n : Nat) : Block := iv ++ BitVec.ofNat 32 n

/-- The first `n` bytes of the keystream; its counters start at two. -/
def keystream (E : Block → Block) (iv : BitVec 96) (n : Nat) : Bytes :=
  ((List.range ((n + 15) / 16)).flatMap fun i ↦ (E (counterBlock iv (i + 2))).toBytes).take n

def cover (E : Block → Block) (iv : BitVec 96) (a : Bytes) : Bytes :=
  a.xor (keystream E iv a.length)

@[simp] theorem length_keystream (E : Block → Block) (iv : BitVec 96) (n : Nat) :
    (keystream E iv n).length = n := by
  have hblocks : ∀ k, ((List.range k).flatMap fun i ↦
      (E (counterBlock iv (i + 2))).toBytes).length = k * Block.size := by
    intro k
    induction k with
    | zero => rfl
    | succ k ih =>
      rw [List.range_succ, List.flatMap_append, List.length_append, ih, List.flatMap_cons,
        List.flatMap_nil, List.append_nil, Block.length_toBytes, Nat.succ_mul]
  rw [keystream, List.length_take, hblocks]
  unfold Block.size
  omega

@[simp] theorem length_cover (E : Block → Block) (iv : BitVec 96) (a : Bytes) :
    (cover E iv a).length = a.length := by
  rw [cover, Bytes.length_xor, length_keystream, Nat.min_self]

theorem cover_cover (E : Block → Block) (iv : BitVec 96) (a : Bytes) :
    cover E iv (cover E iv a) = a := by
  have h : cover E iv (cover E iv a) =
      Bytes.xor (Bytes.xor a (keystream E iv a.length)) (keystream E iv a.length) := by
    rw [cover, length_cover, cover]
  rw [h, Bytes.xor_xor_cancel _ _ (Nat.le_of_eq (length_keystream ..).symm)]

def lengthBlock (aad ciphertext : Bytes) : Block :=
  BitVec.ofNat 64 (8 * aad.length) ++ BitVec.ofNat 64 (8 * ciphertext.length)

def hashedBlocks (aad ciphertext : Bytes) : List Block :=
  aad.blocks ++ ciphertext.blocks ++ [lengthBlock aad ciphertext]

/-- The polynomial with the given coefficients, and none that is constant, at `h`. -/
def hash (h : Block) (bs : List Block) : Block := bs.foldl (fun y b ↦ mul (y ^^^ b) h) 0

def tag (E : Block → Block) (iv : BitVec 96) (aad ciphertext : Bytes) : Tag :=
  let b := hash (E 0) (hashedBlocks aad ciphertext) ^^^ E (counterBlock iv 1)
  ⟨b.toBytes, b.length_toBytes⟩

def encrypt (E : Block → Block) (iv : BitVec 96) (aad plaintext : Bytes) : Sealed :=
  let ciphertext := cover E iv plaintext
  ⟨ciphertext, tag E iv aad ciphertext⟩

def decrypt? (E : Block → Block) (iv : BitVec 96) (aad ciphertext given : Bytes) : Option Bytes :=
  if given = (tag E iv aad ciphertext).val then some (cover E iv ciphertext) else none

end Gcm

end CipherMeter
