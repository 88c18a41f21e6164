import CipherMeter.Mac

/-!
# Codes of what a reader hands out

`Mac.absorb` feeds a code from a reader in chunks until the reader ends or fails. Interrupted
requests are repeated. Whatever was handed out before a failure stays in the code.
-/

namespace CipherMeter

inductive AbsorbFault (ε : Type)
  | emptyChunk
  | chunkTooLarge (size : Nat)
  | outOfMemory (size : Nat)
  | reader (e : ε)
  deriving DecidableEq, Repr

def AbsorbFault.noRoom (size : Nat) (cause : String) : String :=
  s!"cannot allocate a {size} byte chunk: memory allocation failed because the " ++ cause

def AbsorbFault.message {ε : Type} (describe : ε → String) : AbsorbFault ε → String
  | .emptyChunk => "chunk size must be positive"
  | .chunkTooLarge size => noRoom size "computed capacity exceeded the collection's maximum"
  | .outOfMemory size => noRoom size "memory allocator returned an error"
  | .reader e => describe e

/-- The kind of a fault. A reader tells the kinds of its own. -/
def AbsorbFault.kind {ε : Type} (kindOf : ε → String) : AbsorbFault ε → String
  | .emptyChunk => "InvalidInput"
  | .chunkTooLarge _ | .outOfMemory _ => "OutOfMemory"
  | .reader e => kindOf e

structure Absorbed (ε : Type) where
  outcome : Except (AbsorbFault ε) Nat
  mac : Mac
  reader : Reader ε

namespace Mac

variable {ε : Type}

def absorbFrom (chunk total : Nat) (m : Mac) (r : Reader ε) : Absorbed ε :=
  match _h : r.read chunk with
  | (.bytes [], rest) => ⟨.ok total, m, rest⟩
  | (.bytes (b :: a), rest) =>
    absorbFrom chunk (total + (b :: a).length) (m.update (b :: a)) rest
  | (.interrupted, rest) => absorbFrom chunk total m rest
  | (.failed e, rest) => ⟨.error (.reader e), m, rest⟩
termination_by r.size
decreasing_by
  all_goals
    have hlt := r.size_read_lt chunk (by simp [_h])
    simpa only [_h] using hlt

/-- Feeds the code with what the reader hands out, `chunk` bytes at most at a time. A chunk has to
fit into `memory` bytes. -/
def absorb (memory : Nat) (m : Mac) (r : Reader ε) (chunk : Nat) : Absorbed ε :=
  if chunk = 0 then ⟨.error .emptyChunk, m, r⟩
  else if Bytes.addressLimit < chunk then ⟨.error (.chunkTooLarge chunk), m, r⟩
  else if memory < chunk then ⟨.error (.outOfMemory chunk), m, r⟩
  else absorbFrom chunk 0 m r

end Mac

end CipherMeter
