import CipherMeter.Mac.Absorb

/-!
# Pools of codes

Several codes may be under way at once, known by number. A copy of one goes on by itself, and a
finalized one leaves its number unused.
-/

namespace CipherMeter

/-- Codes by number; finalized ones are gone. -/
structure MacPool where
  slots : List (Option Mac)

namespace MacPool

inductive Step (ε : Type)
  | create (key : MacKey)
  | copy (index : Nat)
  | update (index : Nat) (a : Bytes)
  | absorb (index : Nat) (reader : Reader ε) (chunk : Nat)
  | finalize (index : Nat)

inductive Answer (ε : Type)
  | created (index : Nat)
  /-- The code of the message so far. -/
  | updated (soFar : Digest Sha256.digestSize)
  | absorbed (result : Absorbed ε)
  | finalized (digest : Digest Sha256.digestSize)
  | missing

def empty : MacPool := ⟨[]⟩

def get? (p : MacPool) (index : Nat) : Option Mac := (p.slots[index]?).join

def push (p : MacPool) (m : Mac) : MacPool := ⟨p.slots ++ [some m]⟩

def put (p : MacPool) (index : Nat) (m : Option Mac) : MacPool := ⟨p.slots.set index m⟩

variable {ε : Type}

def step (p : MacPool) : Step ε → Answer ε × MacPool
  | .create key => (.created p.slots.length, p.push (.ofKey key))
  | .copy index =>
    match p.get? index with
    | some m => (.created p.slots.length, p.push m)
    | none => (.missing, p)
  | .update index a =>
    match p.get? index with
    | some m =>
      let m := m.update a
      (.updated m.finalize, p.put index m)
    | none => (.missing, p)
  | .absorb index reader chunk =>
    match p.get? index with
    | some m =>
      let result := m.absorb Bytes.memoryLimit reader chunk
      (.absorbed result, p.put index result.mac)
    | none => (.missing, p)
  | .finalize index =>
    match p.get? index with
    | some m => (.finalized m.finalize, p.put index none)
    | none => (.missing, p)

end MacPool

end CipherMeter
