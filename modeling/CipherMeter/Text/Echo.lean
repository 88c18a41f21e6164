import CipherMeter.Text.Quoted

/-!
# Echoes

An echo is a record of named values as JSON text, one to a line. A value is a text, a number, a
truth value, or again a record, of the first three.
-/

namespace CipherMeter.Text

inductive Scalar
  | text (s : String)
  | number (n : Nat)
  | flag (b : Bool)
  deriving DecidableEq, Repr

inductive EchoValue
  | scalar (v : Scalar)
  | record (fields : List (String × Scalar))
  deriving DecidableEq, Repr

/-- A character as it stands in a JSON string: only the quote, the backslash and the characters
before the blank are escaped. -/
def escapeJson (c : Char) : List Char :=
  match c with
  | '"' => ['\\', '"']
  | '\\' => ['\\', '\\']
  | '\n' => ['\\', 'n']
  | '\r' => ['\\', 'r']
  | '\t' => ['\\', 't']
  | '\x08' => ['\\', 'b']
  | '\x0c' => ['\\', 'f']
  | c =>
    if c.toNat < 0x20 then
      ['\\', 'u', '0', '0', Nat.digitChar (c.toNat / 16), Nat.digitChar (c.toNat % 16)]
    else [c]

def quoteJson (s : String) : String :=
  String.ofList (['"'] ++ s.toList.flatMap escapeJson ++ ['"'])

def Scalar.json : Scalar → String
  | text s => quoteJson s
  | number n => toString n
  | flag b => toString b

def braced (indent : String) (fields : List (String × String)) : String :=
  let lines := fields.map fun (name, value) ↦ indent ++ "  " ++ quoteJson name ++ ": " ++ value
  "\x7b\n" ++ String.intercalate ",\n" lines ++ "\n" ++ indent ++ "\x7d"

def EchoValue.json : EchoValue → String
  | scalar v => v.json
  | record fields => braced "  " (fields.map fun (name, v) ↦ (name, v.json))

def echo (fields : List (String × EchoValue)) : String :=
  braced "" (fields.map fun (name, v) ↦ (name, v.json))

end CipherMeter.Text
