import CipherMeter.Bytes

/-!
# UTF-8

Reading bytes as UTF-8 text yields characters and, between them, stretches that are no text.
`scan` cuts a byte string into these parts: each character, and each longest run of bytes that
begins a character but does not finish it.
-/

namespace CipherMeter.Utf8

inductive Part
  | char (c : Char)
  | invalid (bytes : Bytes)
  deriving DecidableEq, Repr

/-- The beginning of a character of several bytes: what was read of it, its value so far, how many
bytes are missing, and the range in which the next one must lie. -/
structure Partial where
  read : Bytes
  value : Nat
  missing : Nat
  low : UInt8
  high : UInt8
  deriving DecidableEq, Repr

namespace Partial

def accepts (p : Partial) (b : UInt8) : Bool := p.low ≤ b && b ≤ p.high

def extend (p : Partial) (b : UInt8) : Nat := p.value * 64 + (b &&& 0x3F).toNat

def push (p : Partial) (b : UInt8) : Partial :=
  ⟨p.read ++ [b], p.extend b, p.missing - 1, 0x80, 0xBF⟩

end Partial

abbrev Step := List Part × Option Partial

/-- The byte `b` where a character begins. The range for the second byte leaves out forms longer
than needed, surrogates, and values beyond the last code point. -/
def first (b : UInt8) : Step :=
  let opens (mask : UInt8) (missing : Nat) (low high : UInt8) : Step :=
    ([], some ⟨[b], (b &&& mask).toNat, missing, low, high⟩)
  if b < 0x80 then ([.char (Char.ofNat b.toNat)], none)
  else if b < 0xC2 then ([.invalid [b]], none)
  else if b < 0xE0 then opens 0x1F 1 0x80 0xBF
  else if b = 0xE0 then opens 0x0F 2 0xA0 0xBF
  else if b = 0xED then opens 0x0F 2 0x80 0x9F
  else if b < 0xF0 then opens 0x0F 2 0x80 0xBF
  else if b = 0xF0 then opens 0x07 3 0x90 0xBF
  else if b < 0xF4 then opens 0x07 3 0x80 0xBF
  else if b = 0xF4 then opens 0x07 3 0x80 0x8F
  else ([.invalid [b]], none)

def next (begun : Option Partial) (b : UInt8) : Step :=
  match begun with
  | none => first b
  | some p =>
    if p.accepts b then
      if p.missing = 1 then ([.char (Char.ofNat (p.extend b))], none) else ([], some (p.push b))
    else (.invalid p.read :: (first b).1, (first b).2)

def scan : Option Partial → Bytes → List Part
  | none, [] => []
  | some p, [] => [.invalid p.read]
  | begun, b :: r => (next begun b).1 ++ scan (next begun b).2 r

def parts (a : Bytes) : List Part := scan none a

def Part.char? : Part → Option Char
  | .char c => some c
  | .invalid _ => none

def decode? (a : Bytes) : Option String := ((parts a).mapM Part.char?).map String.ofList

/-- The text with U+FFFD in place of each stretch that is not text. -/
def decodeLossy (a : Bytes) : String :=
  String.ofList ((parts a).map fun p ↦ p.char?.getD '\uFFFD')

def encode (s : String) : Bytes := s.toList.flatMap String.utf8EncodeChar

end CipherMeter.Utf8
