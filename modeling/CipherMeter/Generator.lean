import CipherMeter.ChaCha

/-!
# Random bytes from a seed

A generator delivers the words of consecutive ChaCha blocks, each with its least significant byte
first. A draw uses as many whole words as it needs; the rest of its last word is lost.
-/

namespace CipherMeter

abbrev Seed := FixedBytes 32

structure Generator where
  seed : Seed
  position : Nat
  deriving DecidableEq

namespace Generator

def ofSeed (seed : Seed) : Generator := ⟨seed, 0⟩

def wordsOfBlocks (seed : Seed) (n : Nat) : List UInt32 :=
  (List.range n).flatMap fun i ↦ (ChaCha.block seed i).toList

def words (seed : Seed) (position n : Nat) : List UInt32 :=
  let first := position / 16
  let blocks := (position + n + 15) / 16 - first
  let ws := (List.range' first blocks).flatMap fun i ↦ (ChaCha.block seed i).toList
  (ws.drop (position % 16)).take n

def wordBytes (w : UInt32) : Bytes := Bytes.littleEndian 4 w.toNat

def stream (seed : Seed) (n : Nat) : Bytes :=
  ((wordsOfBlocks seed ((n + 63) / 64)).flatMap wordBytes).take n

def draw (n : Nat) (g : Generator) : Bytes × Generator :=
  let count := (n + 3) / 4
  (((words g.seed g.position count).flatMap wordBytes).take n, ⟨g.seed, g.position + count⟩)

theorem length_words (seed : Seed) (position n : Nat) : (words seed position n).length = n := by
  have hblocks : ∀ first k : Nat, ((List.range' first k).flatMap fun i ↦
      (ChaCha.block seed i).toList).length = k * 16 := by
    intro first k
    induction k generalizing first with
    | zero => rfl
    | succ k ih =>
      rw [List.range'_succ, List.flatMap_cons, List.length_append, ih, Vector.length_toList,
        Nat.succ_mul, Nat.add_comm]
  rw [words, List.length_take, List.length_drop, hblocks]
  omega

theorem length_flatMap_wordBytes (ws : List UInt32) :
    (ws.flatMap wordBytes).length = 4 * ws.length := by
  induction ws with
  | nil => rfl
  | cons w ws ih =>
    rw [List.flatMap_cons, List.length_append, ih, wordBytes, Bytes.length_littleEndian,
      List.length_cons, Nat.mul_succ, Nat.add_comm]

@[simp] theorem length_draw (n : Nat) (g : Generator) : (g.draw n).1.length = n := by
  rw [draw, List.length_take, length_flatMap_wordBytes, length_words]
  omega

end Generator

end CipherMeter
