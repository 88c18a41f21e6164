import CipherMeter.Block

/-!
# Multiplication of blocks

Blocks stand for polynomials over two elements modulo `x^128 + x^7 + x^2 + x + 1`; the coefficient
of `x^i` is the bit `i` places after the first. Addition is exclusive or.
-/

namespace CipherMeter.Gcm

/-- What `x^128` reduces to. -/
def reduction : Block := 0xE1#128 <<< 120

def timesX (b : Block) : Block := (b >>> 1) ^^^ (if b.getLsbD 0 then reduction else 0)

/-- The product of `b` with the `n` highest coefficients of `a`, taken as a polynomial. -/
def mulHigh (a b : Block) : Nat → Block
  | 0 => 0
  | n + 1 => timesX (mulHigh a b n) ^^^ (if a.getLsbD n then b else 0)

def mul (a b : Block) : Block := mulHigh a b 128

end CipherMeter.Gcm
