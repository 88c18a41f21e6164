import CipherMeter.Text.Quoted

/-!
# Hexadecimal text

`encode` writes each byte as two lower-case digits. `decode` reads either case, after an optional
`0x`, and otherwise says what is wrong: first an odd count of bytes, then the leftmost byte that is
no digit.
-/

namespace CipherMeter.Hex

inductive DecodeError
  | oddLength
  | badDigit (byte : UInt8) (position : Nat)
  deriving DecidableEq, Repr

/-- A byte that is no digit is shown as the character with that code point. -/
def DecodeError.message : DecodeError → String
  | .oddLength => "Odd number of digits"
  | .badDigit byte position =>
    "Invalid character " ++ Text.quoteChar (Char.ofNat byte.toNat) ++ " at position "
      ++ toString position

def digit (n : UInt8) : Char :=
  Char.ofNat (if n < 10 then 48 + n.toNat else 87 + n.toNat)

def digits (b : UInt8) : List Char := [digit (b / 16), digit (b % 16)]

def encode (a : Bytes) : String := String.ofList (a.flatMap digits)

def value? (b : UInt8) : Option UInt8 :=
  if 48 ≤ b ∧ b ≤ 57 then some (b - 48)
  else if 97 ≤ b ∧ b ≤ 102 then some (b - 87)
  else if 65 ≤ b ∧ b ≤ 70 then some (b - 55)
  else none

def readDigit (position : Nat) (b : UInt8) : Except DecodeError UInt8 :=
  match value? b with
  | some v => .ok v
  | none => .error (.badDigit b position)

def readPairs (position : Nat) : Bytes → Except DecodeError Bytes
  | [] => .ok []
  | [_] => .error .oddLength
  | a :: b :: r => do
    let high ← readDigit position a
    let low ← readDigit (position + 1) b
    let rest ← readPairs (position + 2) r
    return (high * 16 + low) :: rest

/-- What remains of a text's bytes after at most one `0x` at the front. -/
def dropMarker : Bytes → Bytes
  | 0x30 :: 0x78 :: r => r
  | a => a

def decode (s : String) : Except DecodeError Bytes :=
  let a := dropMarker (Utf8.encode s)
  if a.length % 2 = 1 then .error .oddLength else readPairs 0 a

end CipherMeter.Hex
