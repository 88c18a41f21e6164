import CipherMeter.Sha256

/-!
# SHA-256 piece by piece

A message may come in pieces of any size: whole blocks are compressed as soon as they are complete,
and fewer than 64 bytes are kept for later.
-/

namespace CipherMeter.Sha256

/-- The hash of a message of which more may come: the chain after its whole blocks, the bytes after
them, and its length. -/
structure Stream where
  chain : Chain
  pending : Bytes
  count : Nat

namespace Stream

def empty : Stream := ⟨initial, [], 0⟩

def update (s : Stream) (a : Bytes) : Stream :=
  let rest := s.pending ++ a
  let whole := rest.length / blockSize
  { chain := compressAll s.chain (Bytes.pieces blockSize whole rest)
    pending := rest.drop (blockSize * whole)
    count := s.count + a.length }

def finish (s : Stream) : Digest digestSize :=
  digest <| compressAll s.chain <| Bytes.wholePieces blockSize (s.pending ++ padding s.count)

end Stream

end CipherMeter.Sha256
