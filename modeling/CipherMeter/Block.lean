import CipherMeter.Bytes

/-!
# Blocks

The 16-byte unit of the cipher and of its authenticator, as a vector of 128 bits whose most
significant bit is the first bit of the first byte.
-/

namespace CipherMeter

abbrev Block := BitVec 128

namespace Block

def size : Nat := 16

def ofBytes (a : Bytes) : Block := BitVec.ofNat 128 a.toNat

def toBytes (b : Block) : Bytes := Bytes.bigEndian size b.toNat

@[simp] theorem length_toBytes (b : Block) : b.toBytes.length = size := by simp [toBytes]

end Block

/-- The blocks of a byte string whose last one is filled up with zero bytes. -/
def Bytes.blocks (a : Bytes) : List Block :=
  (Bytes.wholePieces Block.size (a.fill Block.size)).map Block.ofBytes

end CipherMeter
