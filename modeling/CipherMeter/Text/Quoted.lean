import CipherMeter.Text.Printable
import CipherMeter.Text.Utf8

/-!
# Quoted text

How a text or a single character is shown between quotes in diagnostics: short escapes for the
quote, the backslash, NUL, tab, newline and carriage return, the code point in braces for other
characters that are not printable, and the two upper-case hexadecimal digits of a byte that is no
text.
-/

namespace CipherMeter.Text

def escapeChar (quote c : Char) : List Char :=
  if c = quote ∨ c = '\\' then ['\\', c]
  else if c = '\x00' then ['\\', '0']
  else if c = '\t' then ['\\', 't']
  else if c = '\n' then ['\\', 'n']
  else if c = '\r' then ['\\', 'r']
  else if isPrintable c then [c]
  else ['\\', 'u', '\x7b'] ++ Nat.toDigits 16 c.toNat ++ ['\x7d']

def escapeByte (b : UInt8) : List Char :=
  ['\\', 'x', (Nat.digitChar (b.toNat / 16)).toUpper, (Nat.digitChar (b.toNat % 16)).toUpper]

def escapePart : Utf8.Part → List Char
  | .char c => escapeChar '"' c
  | .invalid bytes => bytes.flatMap escapeByte

def quoteChar (c : Char) : String :=
  String.ofList (['\''] ++ escapeChar '\'' c ++ ['\''])

def quoteBytes (a : Bytes) : String :=
  String.ofList (['"'] ++ (Utf8.parts a).flatMap escapePart ++ ['"'])

end CipherMeter.Text
