import CipherMeter.Aes.Substitution
import CipherMeter.Bytes

/-!
# Keys of AES

The three key sizes, and the expansion of a key into one round key for each round and one before
the first.
-/

namespace CipherMeter.Aes

inductive KeySize
  | aes128
  | aes192
  | aes256
  deriving DecidableEq, Repr

namespace KeySize

def length : KeySize → Nat
  | aes128 => 16
  | aes192 => 24
  | aes256 => 32

def rounds : KeySize → Nat
  | aes128 => 10
  | aes192 => 12
  | aes256 => 14

def ofLength? : Nat → Option KeySize
  | 16 => some aes128
  | 24 => some aes192
  | 32 => some aes256
  | _ => none

theorem ofLength?_eq_some_iff {n : Nat} {size : KeySize} :
    ofLength? n = some size ↔ n = size.length := by
  constructor
  · intro h
    unfold ofLength? at h
    split at h <;> simp_all [length] <;> subst h <;> rfl
  · rintro rfl
    cases size <;> rfl

end KeySize

def substituteWord (w : Bytes) : Bytes := w.map substitute

def rotateWord (w : Bytes) : Bytes := w.drop 1 ++ w.take 1

/-- What the word before the one at `position` contributes to it, in the expansion of a key of
`words` words. -/
def contribution (words position : Nat) (w : Bytes) : Bytes :=
  if position % words = 0 then
    Bytes.xor (substituteWord (rotateWord w)) [pow 2 (position / words - 1), 0, 0, 0]
  else if 6 < words ∧ position % words = 4 then substituteWord w
  else w

/-- The next `count` words of the expansion from `position` on, when `window` holds the `words`
words before it. -/
def expand (words : Nat) : (count position : Nat) → (window : List Bytes) → List Bytes
  | 0, _, _ => []
  | count + 1, position, window =>
    let word := Bytes.xor (window.headD []) (contribution words position (window.getLastD []))
    word :: expand words count (position + 1) (window.drop 1 ++ [word])

def roundKeys (size : KeySize) (key : Bytes) : List Bytes :=
  let window := Bytes.wholePieces 4 key
  let words := size.length / 4
  Bytes.wholePieces 16
    (window ++ expand words (4 * (size.rounds + 1) - words) words window).flatten

end CipherMeter.Aes
