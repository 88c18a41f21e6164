import CipherMeter.FixedBytes

/-!
# ChaCha with twelve rounds

A key and a counter of 64 bits give a block of sixteen words.
-/

namespace CipherMeter.ChaCha

abbrev State := Vector UInt32 16

def rotate (x n : UInt32) : UInt32 := (x <<< n) ||| (x >>> (32 - n))

def quarterRound (s : State) (a b c d : Fin 16) : State :=
  let half (s : State) (n m : UInt32) : State :=
    let s := s.set a (s[a] + s[b])
    let s := s.set d (rotate (s[d] ^^^ s[a]) n)
    let s := s.set c (s[c] + s[d])
    s.set b (rotate (s[b] ^^^ s[c]) m)
  half (half s 16 12) 8 7

def doubleRound (s : State) : State :=
  let s := quarterRound s 0 4 8 12
  let s := quarterRound s 1 5 9 13
  let s := quarterRound s 2 6 10 14
  let s := quarterRound s 3 7 11 15
  let s := quarterRound s 0 5 10 15
  let s := quarterRound s 1 6 11 12
  let s := quarterRound s 2 7 8 13
  quarterRound s 3 4 9 14

def doubleRounds : Nat → State → State
  | 0, s => s
  | n + 1, s => doubleRounds n (doubleRound s)

def constants : List UInt32 := [0x61707865, 0x3320646E, 0x79622D32, 0x6B206574]

def keyWords (key : FixedBytes 32) : List UInt32 :=
  (Bytes.wholePieces 4 key.val).map fun w ↦ UInt32.ofNat (Bytes.toNat w.reverse)

def start (key : FixedBytes 32) (counter : Nat) : State :=
  let words := constants ++ keyWords key
    ++ [UInt32.ofNat counter, UInt32.ofNat (counter >>> 32), 0, 0]
  Vector.ofFn fun i ↦ words.getD i.val 0

def block (key : FixedBytes 32) (counter : Nat) : State :=
  let s := start key counter
  s.zipWith (· + ·) (doubleRounds 6 s)

end CipherMeter.ChaCha
