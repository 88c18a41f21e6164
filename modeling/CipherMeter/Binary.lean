/-!
# Binary floating-point numbers as fractions

A finite number of 64 bits is a whole number times a power of two. `Binary.ofFloat?` takes it apart
and `Binary.scaled` rounds a multiple of it to a whole number.
-/

namespace CipherMeter

structure Binary where
  significand : Nat
  exponent : Int
  deriving DecidableEq, Repr

namespace Binary

/-- The significand of the normal powers of two, and the least one of normal numbers. -/
def leading : Nat := 0x10000000000000

/-- The exponent of the numbers that are too small to have a significand of full size. -/
def leastExponent : Int := -1074

/-- The number that 64 bits stand for, its sign apart, if it is finite. -/
def ofBits? (bits : UInt64) : Option Binary :=
  let fraction := (bits &&& 0xFFFFFFFFFFFFF).toNat
  match ((bits >>> 52) &&& 0x7FF).toNat with
  | 0 => some ⟨fraction, leastExponent⟩
  | 0x7FF => none
  | e => some ⟨leading + fraction, leastExponent + (e - 1 : Nat)⟩

def ofFloat? (x : Float) : Option Binary := ofBits? x.toBits

/-- The whole number nearest to `num / den`, the even one of two. -/
def roundToEven (num den : Nat) : Nat :=
  let q := num / den
  let r := num % den
  if 2 * r < den ∨ (2 * r = den ∧ q % 2 = 0) then q else q + 1

def scaled (b : Binary) (factor : Nat) : Nat :=
  roundToEven ((b.significand * factor) <<< b.exponent.toNat) (1 <<< (-b.exponent).toNat)

end Binary

end CipherMeter
