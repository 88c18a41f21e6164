import CipherMeter.Decimal

/-!
# Durations

A duration is a whole number of nanoseconds, less than `2^64` seconds. As a floating-point number
of seconds it is rounded, and the text of a duration is that of the rounded number.
-/

namespace CipherMeter

def Duration.perSecond : Nat := 1000000000

def Duration.limit : Nat := 0x10000000000000000 * Duration.perSecond

structure Duration where
  nanos : Nat
  nanos_lt : nanos < Duration.limit
  deriving DecidableEq, Repr

namespace Duration

instance : LE Duration := ⟨fun d e ↦ d.nanos ≤ e.nanos⟩

instance (d e : Duration) : Decidable (d ≤ e) := inferInstanceAs (Decidable (d.nanos ≤ e.nanos))

def ofNanos? (n : Nat) : Option Duration :=
  if h : n < limit then some ⟨n, h⟩ else none

def zero : Duration := ⟨0, by decide⟩

instance : Inhabited Duration := ⟨zero⟩

def seconds (d : Duration) : Nat := d.nanos / perSecond

def subsecond (d : Duration) : Nat := d.nanos % perSecond

def add? (d e : Duration) : Option Duration := ofNanos? (d.nanos + e.nanos)

/-- Half of the duration; half a nanosecond is dropped. -/
def half (d : Duration) : Duration :=
  ⟨d.nanos / 2, Nat.lt_of_le_of_lt (Nat.div_le_self ..) d.nanos_lt⟩

/-- The time from `earlier` to `d`, none if `d` comes first. -/
def since (d earlier : Duration) : Duration :=
  ⟨d.nanos - earlier.nanos, Nat.lt_of_le_of_lt (Nat.sub_le ..) d.nanos_lt⟩

def toSeconds (d : Duration) : Float :=
  (UInt64.ofNat d.seconds).toFloat + (UInt64.ofNat d.subsecond).toFloat / 1e9

/-- The duration nearest to a number of seconds that is not negative; of two it is the one with an
even count of nanoseconds. -/
def ofSeconds? (x : Float) : Option Duration :=
  (Binary.ofFloat? x).bind fun b ↦ ofNanos? (b.scaled perSecond)

/-- The duration in seconds as text: the fewest digits that read back, without an exponent. -/
def secondsText (d : Duration) : String :=
  match Binary.ofFloat? d.toSeconds with
  | some b => b.shortest.positional
  | none => ""

end Duration

end CipherMeter
