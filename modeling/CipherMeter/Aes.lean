import CipherMeter.Aes.Schedule
import CipherMeter.Block

/-!
# AES

The block cipher: a state of four columns of four bytes goes through rounds of substitution, row
shifts, column mixing and addition of a round key; the last round mixes no columns.
-/

namespace CipherMeter.Aes

abbrev State := Vector UInt8 16

def State.ofBytes (a : Bytes) : State := Vector.ofFn fun i ↦ a.getD i.val 0

def substituteState (s : State) : State := s.map substitute

def shiftRows (s : State) : State := Vector.ofFn fun i ↦ s[(i.val + 4 * (i.val % 4)) % 16]

/-- Each column is multiplied by the polynomial `3x^3 + x^2 + x + 2` modulo `x^4 + 1`. -/
def mixColumns (s : State) : State :=
  Vector.ofFn fun i ↦
    let entry (k : Nat) : UInt8 := s[(4 * (i.val / 4) + (i.val + k) % 4) % 16]
    timesX (entry 0) ^^^ (timesX (entry 1) ^^^ entry 1) ^^^ entry 2 ^^^ entry 3

def addKey (s key : State) : State := s.zipWith (· ^^^ ·) key

def rounds (s : State) : List State → State
  | [] => s
  | [key] => addKey (shiftRows (substituteState s)) key
  | key :: keys => rounds (addKey (mixColumns (shiftRows (substituteState s))) key) keys

def encryptState (keys : List State) (s : State) : State :=
  match keys with
  | [] => s
  | key :: keys => rounds (addKey s key) keys

def schedule (size : KeySize) (key : Bytes) : List State :=
  (roundKeys size key).map State.ofBytes

def encryptBlock (keys : List State) (b : Block) : Block :=
  Block.ofBytes (encryptState keys (State.ofBytes b.toBytes)).toList

end CipherMeter.Aes
