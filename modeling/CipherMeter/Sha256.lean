import CipherMeter.FixedBytes

/-!
# SHA-256

The hash of a whole message: the message is padded to whole 64-byte blocks, and each block is
compressed into a chain of eight words.
-/

namespace CipherMeter.Sha256

abbrev Chain := Vector UInt32 8

def blockSize : Nat := 64

def digestSize : Nat := 32

/-- The chain before the first block: the first 32 bits of the fractional parts of the square roots
of the first eight primes. -/
def initial : Chain :=
  #v[0x6A09E667, 0xBB67AE85, 0x3C6EF372, 0xA54FF53A, 0x510E527F, 0x9B05688C, 0x1F83D9AB, 0x5BE0CD19]

/-- The words added in the rounds: the first 32 bits of the fractional parts of the cube roots of
the first 64 primes. -/
def roundWords : List UInt32 :=
  [0x428A2F98, 0x71374491, 0xB5C0FBCF, 0xE9B5DBA5, 0x3956C25B, 0x59F111F1,
   0x923F82A4, 0xAB1C5ED5, 0xD807AA98, 0x12835B01, 0x243185BE, 0x550C7DC3,
   0x72BE5D74, 0x80DEB1FE, 0x9BDC06A7, 0xC19BF174, 0xE49B69C1, 0xEFBE4786,
   0x0FC19DC6, 0x240CA1CC, 0x2DE92C6F, 0x4A7484AA, 0x5CB0A9DC, 0x76F988DA,
   0x983E5152, 0xA831C66D, 0xB00327C8, 0xBF597FC7, 0xC6E00BF3, 0xD5A79147,
   0x06CA6351, 0x14292967, 0x27B70A85, 0x2E1B2138, 0x4D2C6DFC, 0x53380D13,
   0x650A7354, 0x766A0ABB, 0x81C2C92E, 0x92722C85, 0xA2BFE8A1, 0xA81A664B,
   0xC24B8B70, 0xC76C51A3, 0xD192E819, 0xD6990624, 0xF40E3585, 0x106AA070,
   0x19A4C116, 0x1E376C08, 0x2748774C, 0x34B0BCB5, 0x391C0CB3, 0x4ED8AA4A,
   0x5B9CCA4F, 0x682E6FF3, 0x748F82EE, 0x78A5636F, 0x84C87814, 0x8CC70208,
   0x90BEFFFA, 0xA4506CEB, 0xBEF9A3F7, 0xC67178F2]

def rotate (x n : UInt32) : UInt32 := (x >>> n) ||| (x <<< (32 - n))

/-- The message words after the first sixteen, when `window` holds the sixteen words before. -/
def extend : Nat → List UInt32 → List UInt32
  | 0, _ => []
  | n + 1, window =>
    let x := window.getD 1 0
    let y := window.getD 14 0
    let word := window.getD 0 0 + (rotate x 7 ^^^ rotate x 18 ^^^ (x >>> 3)) + window.getD 9 0
      + (rotate y 17 ^^^ rotate y 19 ^^^ (y >>> 10))
    word :: extend n (window.drop 1 ++ [word])

def messageWords (block : Bytes) : List UInt32 :=
  let words := (Bytes.wholePieces 4 block).map fun w ↦ UInt32.ofNat w.toNat
  words ++ extend 48 words

def round (s : Chain) (word : UInt32) : Chain :=
  let a := s[0]
  let e := s[4]
  let choice := (e &&& s[5]) ^^^ ((~~~e) &&& s[6])
  let majority := (a &&& s[1]) ^^^ (a &&& s[2]) ^^^ (s[1] &&& s[2])
  let t := s[7] + (rotate e 6 ^^^ rotate e 11 ^^^ rotate e 25) + choice + word
  #v[t + (rotate a 2 ^^^ rotate a 13 ^^^ rotate a 22) + majority, a, s[1], s[2], s[3] + t, e, s[5],
    s[6]]

def compress (s : Chain) (block : Bytes) : Chain :=
  s.zipWith (· + ·) ((List.zipWith (· + ·) roundWords (messageWords block)).foldl round s)

def compressAll (s : Chain) (blocks : List Bytes) : Chain := blocks.foldl compress s

/-- What is appended to a message of `n` bytes: a one bit, zero bits, and the length in bits, up to
the end of a block. -/
def padding (n : Nat) : Bytes :=
  0x80 :: Bytes.zeros ((119 - n % blockSize) % blockSize) ++ Bytes.bigEndian 8 (8 * n)

def digest (s : Chain) : Digest digestSize :=
  ⟨(s.map fun w ↦ Bytes.bigEndian 4 w.toNat).toList.flatten, by
    have h : ∀ a ∈ (s.map fun w ↦ Bytes.bigEndian 4 w.toNat).toList, a.length = 4 := by simp
    rw [List.length_flatten, List.map_congr_left h, List.map_const']
    simp [digestSize]⟩

def hash (message : Bytes) : Digest digestSize :=
  digest <| compressAll initial <|
    Bytes.wholePieces blockSize (message ++ padding message.length)

end CipherMeter.Sha256
