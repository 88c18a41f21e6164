import CipherMeter.Proofs.Bytes
import CipherMeter.Mac

/-!
# The formula of a keyed code

The code of a whole message, written out apart from `Mac`, which computes it: all sizes, the padding
of the key and the two pads are spelled out here.
-/

namespace CipherMeter

namespace Mac

/-- The key, or the hash of a key of more than 64 bytes, with zero bytes after it up to 64. -/
def paddedKey (key : Bytes) : Bytes :=
  if key.length ≤ 64 then key ++ List.replicate (64 - key.length) 0
  else (Sha256.hash key).toList ++ List.replicate 32 0

def innerPad : Bytes := List.replicate 64 0x36

def outerPad : Bytes := List.replicate 64 0x5C

def tag (key message : Bytes) : Digest Sha256.digestSize :=
  let digest := Sha256.hash (Bytes.xor (paddedKey key) innerPad ++ message)
  Sha256.hash (Bytes.xor (paddedKey key) outerPad ++ digest.toList)

theorem length_paddedKey (key : Bytes) : (paddedKey key).length = 64 := by
  rw [paddedKey]
  split
  · rw [List.length_append, List.length_replicate]
    omega
  · rw [List.length_append, List.length_replicate, Digest.length_toList]
    rfl

end Mac

namespace MacKey

theorem block_eq_paddedKey (k : MacKey) : k.block = Mac.paddedKey k.bytes := by
  rw [block, Mac.paddedKey]
  by_cases h : k.bytes.length ≤ 64
  · have hshort : ¬ Sha256.blockSize < k.bytes.length := Nat.not_lt.mpr h
    rw [if_pos h, if_neg hshort]
    rfl
  · have hlong : Sha256.blockSize < k.bytes.length := Nat.lt_of_not_le h
    rw [if_neg h, if_pos hlong, Digest.length_toList]
    rfl

theorem masked_eq_xor (k : MacKey) (pad : UInt8) :
    k.masked pad = Bytes.xor (Mac.paddedKey k.bytes) (List.replicate 64 pad) := by
  have h := Bytes.xor_replicate (Mac.paddedKey k.bytes) pad
  rw [Mac.length_paddedKey] at h
  rw [masked, block_eq_paddedKey, h]

end MacKey

namespace Mac

/-- The formula in terms of the two masked keys with which a code starts. -/
theorem tag_eq_masked (k : MacKey) (message : Bytes) :
    tag k.bytes message = Sha256.hash (k.outer ++ (Sha256.hash (k.inner ++ message)).toList) := by
  rw [MacKey.outer, MacKey.inner, MacKey.masked_eq_xor, MacKey.masked_eq_xor]
  rfl

end Mac

end CipherMeter
