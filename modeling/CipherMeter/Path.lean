import CipherMeter.Text.Quoted

/-!
# Paths

A path is a byte string; that it is usually UTF-8 text matters only where it is shown.
-/

namespace CipherMeter

structure Path where
  bytes : Bytes
  deriving DecidableEq, Repr, Inhabited

namespace Path

def ofString (s : String) : Path := ⟨Utf8.encode s⟩

def display (p : Path) : String := Utf8.decodeLossy p.bytes

def quoted (p : Path) : String := Text.quoteBytes p.bytes

def text? (p : Path) : Option String := Utf8.decode? p.bytes

def separator : UInt8 := 0x2F

def join (p : Path) (name : Bytes) : Path :=
  if p.bytes.isEmpty || p.bytes.getLast? = some separator then ⟨p.bytes ++ name⟩
  else ⟨p.bytes ++ separator :: name⟩

end Path

end CipherMeter
