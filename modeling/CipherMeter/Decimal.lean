import CipherMeter.Binary

/-!
# Shortest decimals

The decimal that stands for a binary number is taken from the coarsest power-of-ten grid that has a
point among the reals that round to the number; of two such points it is the nearer one. So no
decimal with fewer digits reads back as the number.
-/

namespace CipherMeter

structure Decimal where
  digits : Nat
  exponent : Int
  deriving DecidableEq, Repr

namespace Binary

/-- The reals that round to a binary number, in quarters of its unit in the last place: from `low`
to `high` around `value`, with the ends if `closed`. -/
structure Interval where
  low : Nat
  value : Nat
  high : Nat
  closed : Bool
  deriving DecidableEq, Repr

def Interval.contains (i : Interval) (num den : Nat) : Bool :=
  if i.closed then i.low * den ≤ num && num ≤ i.high * den
  else i.low * den < num && num < i.high * den

/-- The reals that round to the number. Below a power of two the numbers lie twice as close. -/
def interval (b : Binary) : Interval :=
  let m := b.significand
  let low := if m = leading ∧ leastExponent < b.exponent then 4 * m - 1 else 4 * m - 2
  ⟨low, 4 * m, 4 * m + 2, m % 2 = 0⟩

/-- A quarter of the unit in the last place over `10 ^ k`, as numerator and denominator. -/
def quarterOver (b : Binary) (k : Int) : Nat × Nat :=
  let e := b.exponent - 2
  (Nat.pow 10 (-k).toNat <<< e.toNat, Nat.pow 10 k.toNat <<< (-e).toNat)

/-- The point nearest to the number among those of the grid `10 ^ k` that round to it; a number
half way between two goes up. -/
def onGrid? (b : Binary) (k : Int) : Option Nat :=
  let i := b.interval
  let (num, den) := b.quarterOver k
  let down := i.value * num / den
  let below := i.contains (down * den) num
  let above := i.contains ((down + 1) * den) num
  let upNearer : Bool := (2 * down + 1) * den ≤ 2 * (i.value * num)
  if above && (upNearer || !below) then some (down + 1)
  else if below then some down
  else none

/-- The first hit on the grids from `10 ^ (n - 343)` downwards. -/
def search (b : Binary) : Nat → Decimal
  | 0 => ⟨0, 0⟩
  | n + 1 =>
    let k : Int := (n : Int) - 342
    match b.onGrid? k with
    | some digits => ⟨digits, k⟩
    | none => search b n

/-- The shortest decimal that reads back as the number. The coarsest grid that is looked at has no
point but zero below the largest number. -/
def shortest (b : Binary) : Decimal := if b.significand = 0 then ⟨0, 0⟩ else b.search 652

end Binary

namespace Decimal

/-- The decimal written without an exponent, and without a point if it is whole. -/
def positional (d : Decimal) : String :=
  if 0 ≤ d.exponent then String.ofList (Nat.toDigits 10 (d.digits * Nat.pow 10 d.exponent.toNat))
  else
    let places := (-d.exponent).toNat
    let significant := Nat.toDigits 10 d.digits
    let ds := List.replicate (places + 1 - significant.length) '0' ++ significant
    let whole := ds.length - places
    String.ofList (ds.take whole ++ '.' :: ds.drop whole)

end Decimal

end CipherMeter
