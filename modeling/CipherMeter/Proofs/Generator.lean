import CipherMeter.Generator
import Mathlib.Data.List.Infix
import Mathlib.Data.Nat.Notation

/-!
The stream of a generator word by word, and what draws take from it: a draw of whole words and the
one after it deliver what a single draw delivers.
-/

namespace CipherMeter.Generator

/-- The word at a position of the stream. -/
def wordAt (seed : Seed) (i : ℕ) : UInt32 := (ChaCha.block seed (i / 16))[i % 16]

theorem toList_block (seed : Seed) (i : ℕ) :
    (ChaCha.block seed i).toList = (List.range' (i * 16) 16).map (wordAt seed) := by
  apply List.ext_getElem
  · simp
  · intro j hj _
    rw [Vector.length_toList] at hj
    have hdiv : (i * 16 + j) / 16 = i := by omega
    have hmod : (i * 16 + j) % 16 = j := by omega
    simp [wordAt, hdiv, hmod]

/-- Consecutive blocks are consecutive words. -/
theorem flatMap_block (seed : Seed) (first n : ℕ) :
    ((List.range' first n).flatMap fun i ↦ (ChaCha.block seed i).toList) =
      (List.range' (first * 16) (n * 16)).map (wordAt seed) := by
  induction n generalizing first with
  | zero => rfl
  | succ n ih =>
    rw [List.range'_succ, List.flatMap_cons, ih, toList_block, ← List.map_append, Nat.succ_mul,
      Nat.succ_mul, Nat.add_comm (n * 16), ← List.range'_append_1]

theorem words_eq (seed : Seed) (position n : ℕ) :
    words seed position n = (List.range' position n).map (wordAt seed) := by
  have hstart : position / 16 * 16 + position % 16 = position := by omega
  have hcount : n ≤ ((position + n + 15) / 16 - position / 16) * 16 - position % 16 := by omega
  rw [words, flatMap_block, ← List.map_drop, ← List.map_take, List.drop_range', Nat.mul_one, hstart,
    List.take_range'_of_length_ge hcount]

theorem words_add (seed : Seed) (position m n : ℕ) :
    words seed position (m + n) = words seed position m ++ words seed (position + m) n := by
  rw [words_eq, words_eq, words_eq, ← List.map_append, List.range'_append_1]

/-- Any words that are enough give the bytes of a draw. -/
theorem draw_eq_take {n count : ℕ} (g : Generator) (h : n ≤ 4 * count) :
    (g.draw n).1 = ((words g.seed g.position count).flatMap wordBytes).take n := by
  obtain ⟨rest, rfl⟩ : ∃ rest, count = (n + 3) / 4 + rest := ⟨count - (n + 3) / 4, by omega⟩
  have hlength : n ≤ ((words g.seed g.position ((n + 3) / 4)).flatMap wordBytes).length := by
    rw [length_flatMap_wordBytes, length_words]
    omega
  rw [words_add, List.flatMap_append, List.take_append_of_le_length hlength, draw]

theorem take_draw {m n : ℕ} (g : Generator) (h : m ≤ n) : (g.draw n).1.take m = (g.draw m).1 := by
  have hcount : n ≤ 4 * ((n + 3) / 4) := by omega
  rw [draw_eq_take g hcount, draw_eq_take g (h.trans hcount), List.take_take, Nat.min_eq_left h]

theorem stream_eq_draw (seed : Seed) (n : ℕ) : stream seed n = ((ofSeed seed).draw n).1 := by
  have hcount : n ≤ 4 * ((n + 63) / 64 * 16) := by omega
  have hblocks : wordsOfBlocks seed ((n + 63) / 64) = words seed 0 ((n + 63) / 64 * 16) := by
    rw [wordsOfBlocks, List.range_eq_range', flatMap_block, Nat.zero_mul, words_eq]
  rw [stream, hblocks, draw_eq_take (ofSeed seed) hcount]
  rfl

/-- After a draw of whole words the next one goes on where it ended. -/
theorem draw_add {m : ℕ} (g : Generator) (h : 4 ∣ m) (n : ℕ) :
    g.draw (m + n) = ((g.draw m).1 ++ ((g.draw m).2.draw n).1, ((g.draw m).2.draw n).2) := by
  obtain ⟨k, rfl⟩ := h
  have hwords : (4 * k + 3) / 4 = k := by omega
  have hcount : (4 * k + n + 3) / 4 = k + (n + 3) / 4 := by omega
  have hlength : ((words g.seed g.position k).flatMap wordBytes).length = 4 * k := by
    rw [length_flatMap_wordBytes, length_words]
  simp only [draw, hwords, hcount, words_add, List.flatMap_append]
  rw [List.take_of_length_le hlength.le, ← hlength, List.take_length_add_append, Nat.add_assoc]

end CipherMeter.Generator
