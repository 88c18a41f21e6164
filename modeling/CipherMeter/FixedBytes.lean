import CipherMeter.Fault

/-!
# Byte strings of fixed length

`Digest n` is the public kind: it is ordered, and its text is hexadecimal. `Secret n` is the other
kind: it is never shown, only how long it is.
-/

namespace CipherMeter

abbrev FixedBytes (n : Nat) := { a : Bytes // a.length = n }

structure Digest (n : Nat) where
  bytes : FixedBytes n
  deriving DecidableEq

namespace Digest

variable {n : Nat}

def toList (d : Digest n) : Bytes := d.bytes.val

@[simp] theorem length_toList (d : Digest n) : d.toList.length = n := d.bytes.property

def size (_ : Digest n) : Nat := n

/-- Digests are ordered by the first byte in which they differ. -/
instance : LT (Digest n) := ⟨fun d e ↦ d.toList < e.toList⟩

instance : LE (Digest n) := ⟨fun d e ↦ ¬ e < d⟩

instance (d e : Digest n) : Decidable (d < e) := inferInstanceAs (Decidable (d.toList < e.toList))

instance (d e : Digest n) : Decidable (d ≤ e) := inferInstanceAs (Decidable (¬ e < d))

def sort (ds : List (Digest n)) : List (Digest n) := ds.mergeSort fun d e ↦ decide (d ≤ e)

def text (d : Digest n) : String := Hex.encode d.toList

def debug (d : Digest n) : String := "Digest(" ++ d.text ++ ")"

end Digest

structure Secret (n : Nat) where
  bytes : FixedBytes n
  deriving DecidableEq

namespace Secret

variable {n : Nat}

def toList (s : Secret n) : Bytes := s.bytes.val

def ofBytes (n : Nat) (a : Bytes) : Except Fault (Secret n) :=
  if h : a.length = n then .ok ⟨a, h⟩ else .error (.inputLengthWrong n)

def elided (_ : Secret n) : String := s!"<elided {n} secret bytes>"

def wiped (_ : Secret n) : Secret n := ⟨Bytes.zeros n, Bytes.length_zeros n⟩

end Secret

end CipherMeter
