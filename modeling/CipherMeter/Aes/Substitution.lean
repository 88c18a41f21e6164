/-!
# The byte substitution of AES

Bytes stand for polynomials over two elements modulo `x^8 + x^4 + x^3 + x + 1`. The substitution
replaces a byte by its inverse there, followed by a fixed affine map on its bits.
-/

namespace CipherMeter.Aes

def timesX (a : UInt8) : UInt8 := (a <<< 1) ^^^ (if a < 0x80 then 0 else 0x1B)

def mulHigh (a b : UInt8) : Nat → UInt8
  | 0 => 0
  | n + 1 => timesX (mulHigh a b n) ^^^ (if a.toNat.testBit (7 - n) then b else 0)

def mul (a b : UInt8) : UInt8 := mulHigh a b 8

def pow (a : UInt8) : Nat → UInt8
  | 0 => 1
  | n + 1 => mul a (pow a n)

/-- The inverse of a byte, and zero for zero: the nonzero bytes form a group of order 255. -/
def inverse (a : UInt8) : UInt8 := pow a 254

def rotate (a n : UInt8) : UInt8 := (a <<< n) ||| (a >>> (8 - n))

def affine (a : UInt8) : UInt8 :=
  a ^^^ rotate a 1 ^^^ rotate a 2 ^^^ rotate a 3 ^^^ rotate a 4 ^^^ 0x63

def substitutes : Vector UInt8 256 := Vector.ofFn fun i ↦ affine (inverse (UInt8.ofNat i.val))

def substitute (a : UInt8) : UInt8 := substitutes.get a.toFin

end CipherMeter.Aes
