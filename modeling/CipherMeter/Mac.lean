import CipherMeter.Reader
import CipherMeter.Sha256.Stream

/-!
# HMAC-SHA256

The code of a message that comes in pieces: the two hashes of which the code is made start with the
key under one mask each, and only the inner one is fed with the message.
-/

namespace CipherMeter

structure MacKey where
  bytes : Bytes
  deriving DecidableEq

namespace MacKey

def elided (k : MacKey) : String := s!"<elided {k.bytes.length} byte HMAC key>"

/-- The key brought to the size of a block: hashed if it is longer, then followed by zero bytes. -/
def block (k : MacKey) : Bytes :=
  let short := if Sha256.blockSize < k.bytes.length then (Sha256.hash k.bytes).toList else k.bytes
  short ++ Bytes.zeros (Sha256.blockSize - short.length)

def masked (k : MacKey) (pad : UInt8) : Bytes := k.block.map (· ^^^ pad)

def inner (k : MacKey) : Bytes := k.masked 0x36

def outer (k : MacKey) : Bytes := k.masked 0x5C

end MacKey

/-- The code of a message of which more may come, as the two hashes that it is made of. -/
structure Mac where
  inner : Sha256.Stream
  outer : Sha256.Stream

namespace Mac

def ofKey (k : MacKey) : Mac :=
  ⟨Sha256.Stream.empty.update k.inner, Sha256.Stream.empty.update k.outer⟩

def update (m : Mac) (a : Bytes) : Mac := { m with inner := m.inner.update a }

def finalize (m : Mac) : Digest Sha256.digestSize := (m.outer.update m.inner.finish.toList).finish

def ofMessage (k : MacKey) (message : Bytes) : Digest Sha256.digestSize :=
  ((ofKey k).update message).finalize

end Mac

end CipherMeter
