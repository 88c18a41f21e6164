import CipherMeter.Path
import CipherMeter.Proofs.Bytes

/-!
Reading UTF-8 against writing it. The parts into which a byte string is cut make it up again, and it
is a text just if it is what is written for one.
-/

namespace CipherMeter

namespace Utf8

theorem toNat_and_mask (b : UInt8) :
    (b &&& 0x1F).toNat = b.toNat % 32 ∧ (b &&& 0x0F).toNat = b.toNat % 16 ∧
      (b &&& 0x07).toNat = b.toNat % 8 ∧ (b &&& 0x3F).toNat = b.toNat % 64 := by
  simp only [UInt8.toNat_and]
  exact ⟨Nat.and_two_pow_sub_one_eq_mod _ 5, Nat.and_two_pow_sub_one_eq_mod _ 4,
    Nat.and_two_pow_sub_one_eq_mod _ 3, Nat.and_two_pow_sub_one_eq_mod _ 6⟩

section

variable {b : UInt8}

theorem first_of_one (h : b.toNat < 0x80) : first b = ([.char (Char.ofNat b.toNat)], none) := by
  simp only [first, UInt8.lt_iff_toNat_lt, UInt8.reduceToNat]
  rw [if_pos h]

theorem first_of_two (hlow : 0xC2 ≤ b.toNat) (hhigh : b.toNat < 0xE0) :
    first b = ([], some ⟨[b], b.toNat % 32, 1, 0x80, 0xBF⟩) := by
  simp only [first, UInt8.lt_iff_toNat_lt, UInt8.reduceToNat, (toNat_and_mask b).1]
  rw [if_neg (by omega), if_neg (by omega), if_pos hhigh]

theorem first_of_three (hlow : 0xE0 ≤ b.toNat) (hhigh : b.toNat < 0xF0) :
    first b = ([], some ⟨[b], b.toNat % 16, 2, if b.toNat = 0xE0 then 0xA0 else 0x80,
      if b.toNat = 0xED then 0x9F else 0xBF⟩) := by
  simp only [first, UInt8.lt_iff_toNat_lt, ← UInt8.toNat_inj, UInt8.reduceToNat,
    (toNat_and_mask b).2.1]
  rw [if_neg (by omega), if_neg (by omega), if_neg (by omega), if_pos hhigh]
  split
  · rw [if_neg (by omega)]
  · split <;> rfl

theorem first_of_four (hlow : 0xF0 ≤ b.toNat) (hhigh : b.toNat ≤ 0xF4) :
    first b = ([], some ⟨[b], b.toNat % 8, 3, if b.toNat = 0xF0 then 0x90 else 0x80,
      if b.toNat = 0xF4 then 0x8F else 0xBF⟩) := by
  simp only [first, UInt8.lt_iff_toNat_lt, ← UInt8.toNat_inj, UInt8.reduceToNat,
    (toNat_and_mask b).2.2.1]
  rw [if_neg (by omega), if_neg (by omega), if_neg (by omega), if_neg (by omega),
    if_neg (by omega), if_neg (by omega)]
  split
  · rw [if_neg (by omega)]
  · split
    · rw [if_neg (by omega)]
    · rw [if_pos (by omega), if_pos (by omega)]

theorem first_of_invalid (h : 0x80 ≤ b.toNat ∧ b.toNat < 0xC2 ∨ 0xF4 < b.toNat) :
    first b = ([.invalid [b]], none) := by
  simp only [first, UInt8.lt_iff_toNat_lt, ← UInt8.toNat_inj, UInt8.reduceToNat]
  rw [if_neg (by omega)]
  split
  · rfl
  · rw [if_neg (by omega), if_neg (by omega), if_neg (by omega), if_neg (by omega),
      if_neg (by omega), if_neg (by omega), if_neg (by omega)]

end

/-- The byte of the character with value `v` after which `n` more are to come, unless it is the
first one. -/
def continuation (n v : ℕ) : UInt8 := UInt8.ofNat (v / 64 ^ n % 64 + 128)

/-- The last `n` bytes of the character with value `v`. -/
def tail : ℕ → ℕ → Bytes
  | 0, _ => []
  | n + 1, v => continuation n v :: tail n v

theorem toNat_continuation (n v : ℕ) : (continuation n v).toNat = v / 64 ^ n % 64 + 128 := by
  rw [continuation, UInt8.toNat_ofNat']
  omega

section

variable {c : Char}

theorem utf8EncodeChar_of_one (h : c.val.toNat < 0x80) :
    String.utf8EncodeChar c = [UInt8.ofNat c.val.toNat] := by
  rw [String.utf8EncodeChar, if_pos (by omega)]

theorem utf8EncodeChar_of_two (hlow : 0x80 ≤ c.val.toNat) (hhigh : c.val.toNat < 0x800) :
    String.utf8EncodeChar c = UInt8.ofNat (c.val.toNat / 64 + 192) :: tail 1 c.val.toNat := by
  have hlead : c.val.toNat / 64 % 32 = c.val.toNat / 64 := by omega
  rw [String.utf8EncodeChar, if_neg (by omega), if_pos (by omega), hlead]
  simp [tail, continuation]

theorem utf8EncodeChar_of_three (hlow : 0x800 ≤ c.val.toNat) (hhigh : c.val.toNat < 0x10000) :
    String.utf8EncodeChar c = UInt8.ofNat (c.val.toNat / 4096 + 224) :: tail 2 c.val.toNat := by
  have hlead : c.val.toNat / 4096 % 16 = c.val.toNat / 4096 := by omega
  rw [String.utf8EncodeChar, if_neg (by omega), if_neg (by omega), if_pos (by omega), hlead]
  simp [tail, continuation]

theorem utf8EncodeChar_of_four (hlow : 0x10000 ≤ c.val.toNat) :
    String.utf8EncodeChar c = UInt8.ofNat (c.val.toNat / 262144 + 240) :: tail 3 c.val.toNat := by
  have hvalid : c.val.toNat.isValidChar := c.valid
  have hlead : c.val.toNat / 262144 % 8 = c.val.toNat / 262144 := by
    simp only [Nat.isValidChar] at hvalid
    omega
  rw [String.utf8EncodeChar, if_neg (by omega), if_neg (by omega), if_neg (by omega), hlead]
  simp [tail, continuation]

end

theorem toNat_ofNat_of_valid {v : ℕ} (h : v.isValidChar) : (Char.ofNat v).val.toNat = v := by
  rw [Char.ofNat, dif_pos h]
  rfl

/-- A byte of ASCII is the character with that value. -/
theorem utf8EncodeChar_ofNat {b : UInt8} (h : b.toNat < 0x80) :
    String.utf8EncodeChar (Char.ofNat b.toNat) = [b] := by
  have hvalue : (Char.ofNat b.toNat).val.toNat = b.toNat := toNat_ofNat_of_valid (.inl (by omega))
  rw [utf8EncodeChar_of_one (by rwa [hvalue]), hvalue, UInt8.ofNat_toNat]

theorem Partial.accepts_iff (p : Partial) (b : UInt8) :
    p.accepts b = true ↔ p.low.toNat ≤ b.toNat ∧ b.toNat ≤ p.high.toNat := by
  rw [accepts, Bool.and_eq_true, decide_eq_true_iff, decide_eq_true_iff, UInt8.le_iff_toNat_le,
    UInt8.le_iff_toNat_le]

theorem Partial.extend_eq (p : Partial) (b : UInt8) : p.extend b = p.value * 64 + b.toNat % 64 := by
  rw [extend, (toNat_and_mask b).2.2.2]

/-- The bytes read begin every character that has this value so far and goes on in the range. -/
structure Partial.Begins (p : Partial) : Prop where
  missing_pos : 0 < p.missing
  low_le : 0x80 ≤ p.low.toNat
  high_le : p.high.toNat ≤ 0xBF
  of_value {n : ℕ} (v : ℕ) : p.missing = n + 1 → v / 64 ^ (n + 1) = p.value →
    p.accepts (continuation n v) = true →
      v.isValidChar ∧ String.utf8EncodeChar (Char.ofNat v) = p.read ++ tail (n + 1) v

namespace Partial.Begins

section

variable {p : Partial} {b : UInt8} (hp : p.Begins) (hb : p.accepts b = true)

include hp hb

theorem continuation_of_div_eq {n v : ℕ} (hv : v / 64 ^ n = p.extend b) :
    continuation n v = b ∧ v / 64 ^ (n + 1) = p.value := by
  have hrange := (p.accepts_iff b).mp hb
  have hlow := hp.low_le
  have hhigh := hp.high_le
  rw [p.extend_eq] at hv
  constructor
  · apply UInt8.toNat_inj.mp
    rw [toNat_continuation, hv]
    omega
  · rw [pow_succ, ← Nat.div_div_eq_div_mul, hv]
    omega

theorem push (hn : p.missing ≠ 1) : (p.push b).Begins where
  missing_pos := by
    have hpos := hp.missing_pos
    simp only [Partial.push]
    omega
  low_le := le_refl _
  high_le := le_refl _
  of_value {n} v hmissing hv _ := by
    have hmissing' : p.missing = n + 1 + 1 := by
      have hpos := hp.missing_pos
      simp only [Partial.push] at hmissing
      omega
    obtain ⟨hcontinuation, hvalue⟩ := hp.continuation_of_div_eq hb hv
    obtain ⟨hvalid, hencode⟩ := hp.of_value v hmissing' hvalue (hcontinuation.symm ▸ hb)
    refine ⟨hvalid, ?_⟩
    rw [hencode, tail, hcontinuation, Partial.push, List.append_assoc]
    rfl

theorem utf8EncodeChar_extend (hn : p.missing = 1) :
    String.utf8EncodeChar (Char.ofNat (p.extend b)) = p.read ++ [b] := by
  have hone : p.extend b / 64 ^ 0 = p.extend b := by rw [pow_zero, Nat.div_one]
  obtain ⟨hcontinuation, hvalue⟩ := hp.continuation_of_div_eq hb hone
  obtain ⟨-, hencode⟩ := hp.of_value _ hn hvalue (hcontinuation.symm ▸ hb)
  rw [hencode, tail, hcontinuation, tail]

end

theorem ofNat_eq_of_toNat_eq {n : ℕ} {b : UInt8} (h : n = b.toNat) : UInt8.ofNat n = b := by
  rw [h, UInt8.ofNat_toNat]

variable {b low high : UInt8}

theorem of_two (hb : 0xC2 ≤ b.toNat ∧ b.toNat < 0xE0) :
    Partial.Begins ⟨[b], b.toNat % 32, 1, 0x80, 0xBF⟩ where
  missing_pos := Nat.one_pos
  low_le := le_refl 0x80
  high_le := le_refl 0xBF
  of_value {n} v hmissing hv _ := by
    obtain rfl : n = 0 := by
      dsimp only at hmissing
      omega
    dsimp only at hv
    have hvalid : v.isValidChar := .inl (by omega)
    have hvalue := toNat_ofNat_of_valid hvalid
    refine ⟨hvalid, ?_⟩
    rw [utf8EncodeChar_of_two (by omega) (by omega), hvalue,
      ofNat_eq_of_toNat_eq (b := b) (by omega)]
    rfl

theorem of_three (hb : 0xE0 ≤ b.toNat ∧ b.toNat < 0xF0) (hlow : 0x80 ≤ low.toNat)
    (hhigh : high.toNat ≤ 0xBF) (hfirst : b.toNat = 0xE0 → 0xA0 ≤ low.toNat)
    (hsurrogate : b.toNat = 0xED → high.toNat ≤ 0x9F) :
    Partial.Begins ⟨[b], b.toNat % 16, 2, low, high⟩ where
  missing_pos := Nat.two_pos
  low_le := hlow
  high_le := hhigh
  of_value {n} v hmissing hv haccepts := by
    obtain rfl : n = 1 := by
      dsimp only at hmissing
      omega
    rw [Partial.accepts_iff, toNat_continuation] at haccepts
    dsimp only at hv haccepts
    have hvalid : v.isValidChar := by
      simp only [Nat.isValidChar]
      omega
    have hvalue := toNat_ofNat_of_valid hvalid
    refine ⟨hvalid, ?_⟩
    rw [utf8EncodeChar_of_three (by omega) (by omega), hvalue,
      ofNat_eq_of_toNat_eq (b := b) (by omega)]
    rfl

theorem of_four (hb : 0xF0 ≤ b.toNat ∧ b.toNat ≤ 0xF4) (hlow : 0x80 ≤ low.toNat)
    (hhigh : high.toNat ≤ 0xBF) (hfirst : b.toNat = 0xF0 → 0x90 ≤ low.toNat)
    (hlast : b.toNat = 0xF4 → high.toNat ≤ 0x8F) :
    Partial.Begins ⟨[b], b.toNat % 8, 3, low, high⟩ where
  missing_pos := Nat.succ_pos 2
  low_le := hlow
  high_le := hhigh
  of_value {n} v hmissing hv haccepts := by
    obtain rfl : n = 2 := by
      dsimp only at hmissing
      omega
    rw [Partial.accepts_iff, toNat_continuation] at haccepts
    dsimp only at hv haccepts
    have hvalid : v.isValidChar := by
      simp only [Nat.isValidChar]
      omega
    have hvalue := toNat_ofNat_of_valid hvalid
    refine ⟨hvalid, ?_⟩
    rw [utf8EncodeChar_of_four (by omega), hvalue, ofNat_eq_of_toNat_eq (b := b) (by omega)]
    rfl

end Partial.Begins

/-- The bytes of a part. -/
def Part.bytes : Part → Bytes
  | .char c => String.utf8EncodeChar c
  | .invalid a => a

/-- What is read of a character that is not finished. -/
def pending : Option Partial → Bytes
  | none => []
  | some p => p.read

/-- A step from `begun` at `b` that loses no byte and leaves the beginning of a character. -/
def Keeps (begun : Option Partial) (b : UInt8) (s : Step) : Prop :=
  s.1.flatMap Part.bytes ++ pending s.2 = pending begun ++ [b] ∧ ∀ p ∈ s.2, p.Begins

theorem keeps_first (b : UInt8) : Keeps none b (first b) := by
  have hrange : b.toNat < 0x80 ∨ (0xC2 ≤ b.toNat ∧ b.toNat < 0xE0) ∨
      (0xE0 ≤ b.toNat ∧ b.toNat < 0xF0) ∨ (0xF0 ≤ b.toNat ∧ b.toNat ≤ 0xF4) ∨
      (0x80 ≤ b.toNat ∧ b.toNat < 0xC2 ∨ 0xF4 < b.toNat) := by omega
  rcases hrange with h | h | h | h | h
  · rw [first_of_one h]
    refine ⟨?_, nofun⟩
    simp only [List.flatMap_singleton, Part.bytes, pending, List.append_nil, List.nil_append]
    exact utf8EncodeChar_ofNat h
  · rw [first_of_two h.1 h.2]
    refine ⟨rfl, fun p hp ↦ ?_⟩
    cases hp
    exact .of_two h
  · rw [first_of_three h.1 h.2]
    refine ⟨rfl, fun p hp ↦ ?_⟩
    cases hp
    refine .of_three h ?_ ?_ ?_ ?_
    · split <;> decide
    · split <;> decide
    · intro hb
      rw [if_pos hb]
      decide
    · intro hb
      rw [if_pos hb]
      decide
  · rw [first_of_four h.1 h.2]
    refine ⟨rfl, fun p hp ↦ ?_⟩
    cases hp
    refine .of_four h ?_ ?_ ?_ ?_
    · split <;> decide
    · split <;> decide
    · intro hb
      rw [if_pos hb]
      decide
    · intro hb
      rw [if_pos hb]
      decide
  · rw [first_of_invalid h]
    exact ⟨rfl, nofun⟩

theorem keeps_next {begun : Option Partial} (h : ∀ p ∈ begun, p.Begins) (b : UInt8) :
    Keeps begun b (next begun b) := by
  cases begun with
  | none => exact keeps_first b
  | some p =>
    have hp := h p rfl
    rw [next]
    split
    · rename_i hb
      split
      · rename_i hone
        refine ⟨?_, nofun⟩
        simp only [List.flatMap_singleton, Part.bytes, pending, List.append_nil]
        exact hp.utf8EncodeChar_extend hb hone
      · rename_i hone
        refine ⟨rfl, fun q hq ↦ ?_⟩
        cases hq
        exact hp.push hb hone
    · obtain ⟨hbytes, hbegins⟩ := keeps_first b
      refine ⟨?_, hbegins⟩
      rw [List.flatMap_cons, List.append_assoc, hbytes]
      rfl

theorem flatMap_bytes_scan (a : Bytes) {begun : Option Partial} (h : ∀ p ∈ begun, p.Begins) :
    (scan begun a).flatMap Part.bytes = pending begun ++ a := by
  induction a generalizing begun with
  | nil =>
    cases begun with
    | none => rfl
    | some p =>
      rw [scan, List.flatMap_singleton, List.append_nil]
      rfl
  | cons b a ih =>
    obtain ⟨hbytes, hbegins⟩ := keeps_next h b
    rw [scan, List.flatMap_append, ih hbegins, ← List.append_assoc, hbytes, List.append_assoc]
    rfl

/-- Cutting a byte string into parts loses nothing. -/
theorem flatMap_bytes_parts (a : Bytes) : (parts a).flatMap Part.bytes = a :=
  flatMap_bytes_scan a nofun

/-- The rest of a character whose beginning was read is read as that character. -/
theorem scan_tail (v : ℕ) (r : Bytes) {n : ℕ} {p : Partial} (hmissing : p.missing = n + 1)
    (hvalue : p.value = v / 64 ^ (n + 1)) (hb : p.accepts (continuation n v) = true) :
    scan (some p) (tail (n + 1) v ++ r) = .char (Char.ofNat v) :: scan none r := by
  induction n generalizing p with
  | zero =>
    have hextend : p.extend (continuation 0 v) = v := by
      rw [p.extend_eq, hvalue, toNat_continuation]
      omega
    rw [tail, tail, List.singleton_append, scan, next, if_pos hb, if_pos hmissing, hextend]
    rfl
  | succ n ih =>
    have hextend : p.extend (continuation (n + 1) v) = v / 64 ^ (n + 1) := by
      rw [p.extend_eq, hvalue, toNat_continuation, pow_succ 64 (n + 1), ← Nat.div_div_eq_div_mul]
      omega
    have hone : p.missing ≠ 1 := by omega
    have haccepts : (p.push (continuation (n + 1) v)).accepts (continuation n v) = true := by
      rw [Partial.accepts_iff, toNat_continuation, Partial.push]
      simp only [UInt8.reduceToNat]
      omega
    rw [tail, List.cons_append, scan, next, if_pos hb, if_neg hone]
    exact ih (by rw [Partial.push, hmissing]; rfl) hextend haccepts

theorem scan_lead {c : Char} {lead : UInt8} {n : ℕ} {p : Partial} (r : Bytes)
    (hencode : String.utf8EncodeChar c = lead :: tail (n + 1) c.val.toNat)
    (hfirst : first lead = ([], some p)) (hmissing : p.missing = n + 1)
    (hvalue : p.value = c.val.toNat / 64 ^ (n + 1))
    (hb : p.accepts (continuation n c.val.toNat) = true) :
    scan none (String.utf8EncodeChar c ++ r) = .char c :: scan none r := by
  have hchar : Char.ofNat c.val.toNat = c := Char.ofNat_toNat c
  rw [hencode, List.cons_append, scan, next, hfirst, List.nil_append,
    scan_tail _ r hmissing hvalue hb, hchar]

/-- The values that a character can have, by the length of its UTF-8. -/
theorem ranges_of_char (c : Char) : c.val.toNat < 0x80 ∨
    (0x80 ≤ c.val.toNat ∧ c.val.toNat < 0x800) ∨
    (0x800 ≤ c.val.toNat ∧ c.val.toNat < 0x10000 ∧
      ¬(0xD800 ≤ c.val.toNat ∧ c.val.toNat < 0xE000)) ∨
    (0x10000 ≤ c.val.toNat ∧ c.val.toNat < 0x110000) := by
  have hvalid : c.val.toNat.isValidChar := c.valid
  simp only [Nat.isValidChar] at hvalid
  omega

theorem le_of_mem_tail {n v : ℕ} {b : UInt8} (h : b ∈ tail n v) : 0x80 ≤ b.toNat := by
  induction n with
  | zero => exact absurd h List.not_mem_nil
  | succ n ih =>
    rcases List.mem_cons.mp h with rfl | h
    · rw [toNat_continuation]
      omega
    · exact ih h

theorem toNat_ofNat_of_lt {n : ℕ} (h : n < 256) : (UInt8.ofNat n).toNat = n :=
  UInt8.toNat_ofNat_of_lt' h

/-- A character is read back whatever follows it. -/
theorem scan_utf8EncodeChar (c : Char) (r : Bytes) :
    scan none (String.utf8EncodeChar c ++ r) = .char c :: scan none r := by
  rcases ranges_of_char c with h | h | h | h
  · have hchar : Char.ofNat c.val.toNat = c := Char.ofNat_toNat c
    have hlead := toNat_ofNat_of_lt (n := c.val.toNat) (by omega)
    rw [utf8EncodeChar_of_one h, List.singleton_append, scan, next, first_of_one (by omega), hlead,
      hchar]
    rfl
  · have hlead := toNat_ofNat_of_lt (n := c.val.toNat / 64 + 192) (by omega)
    refine scan_lead r (utf8EncodeChar_of_two h.1 h.2) (first_of_two (by omega) (by omega))
      rfl ?_ ?_
    · dsimp only
      omega
    · rw [Partial.accepts_iff, toNat_continuation]
      simp only [UInt8.reduceToNat]
      omega
  · have hlead := toNat_ofNat_of_lt (n := c.val.toNat / 4096 + 224) (by omega)
    refine scan_lead r (utf8EncodeChar_of_three h.1 h.2.1) (first_of_three (by omega) (by omega))
      rfl ?_ ?_
    · dsimp only
      omega
    · rw [Partial.accepts_iff, toNat_continuation]
      dsimp only
      split <;> split <;> simp only [UInt8.reduceToNat] <;> omega
  · have hlead := toNat_ofNat_of_lt (n := c.val.toNat / 262144 + 240) (by omega)
    refine scan_lead r (utf8EncodeChar_of_four h.1) (first_of_four (by omega) (by omega)) rfl ?_ ?_
    · dsimp only
      omega
    · rw [Partial.accepts_iff, toNat_continuation]
      dsimp only
      split <;> split <;> simp only [UInt8.reduceToNat] <;> omega

theorem le_of_mem_lead_tail {lead n v : ℕ} {b : UInt8} (hlead : 0x80 ≤ lead ∧ lead < 256)
    (hb : b ∈ UInt8.ofNat lead :: tail n v) : 0x80 ≤ b.toNat := by
  rcases List.mem_cons.mp hb with rfl | hb
  · rw [toNat_ofNat_of_lt hlead.2]
    exact hlead.1
  · exact le_of_mem_tail hb

/-- The bytes of ASCII do not occur in other characters. -/
theorem le_of_mem_utf8EncodeChar {c : Char} {b : UInt8} (hc : 0x80 ≤ c.val.toNat)
    (hb : b ∈ String.utf8EncodeChar c) : 0x80 ≤ b.toNat := by
  rcases ranges_of_char c with h | h | h | h
  · omega
  · rw [utf8EncodeChar_of_two h.1 h.2] at hb
    exact le_of_mem_lead_tail (by omega) hb
  · rw [utf8EncodeChar_of_three h.1 h.2.1] at hb
    exact le_of_mem_lead_tail (by omega) hb
  · rw [utf8EncodeChar_of_four h.1] at hb
    exact le_of_mem_lead_tail (by omega) hb

/-- A text is cut into its characters. -/
theorem parts_encode (s : String) : parts (encode s) = s.toList.map Part.char := by
  rw [parts, encode]
  induction s.toList with
  | nil => rfl
  | cons c cs ih => rw [List.flatMap_cons, scan_utf8EncodeChar, ih, List.map_cons]

theorem mapM_char?_eq_some_iff (ps : List Part) (cs : List Char) :
    ps.mapM Part.char? = some cs ↔ ps = cs.map Part.char := by
  induction ps generalizing cs with
  | nil => simp [eq_comm]
  | cons p ps ih =>
    have hsplit : (p :: ps).mapM Part.char? = some cs ↔
        ∃ c, p.char? = some c ∧ ∃ cs', ps = cs'.map Part.char ∧ c :: cs' = cs := by
      simp only [List.mapM_cons, Option.bind_eq_bind, Option.bind_eq_some_iff, Option.pure_def,
        Option.some.injEq, ih]
    rw [hsplit]
    cases p with
    | char c =>
      constructor
      · rintro ⟨_, hc, _, rfl, rfl⟩
        cases hc
        rfl
      · intro h
        obtain ⟨c', cs', rfl, hc, hcs⟩ := List.map_eq_cons_iff.mp h.symm
        cases hc
        exact ⟨c, rfl, cs', hcs.symm, rfl⟩
    | invalid a =>
      constructor
      · rintro ⟨_, hc, _⟩
        cases hc
      · intro h
        obtain ⟨c', cs', rfl, hc, hcs⟩ := List.map_eq_cons_iff.mp h.symm
        cases hc

/-- Exactly the encodings of texts are texts, and each is that of one text only. -/
theorem decode?_eq_some_iff (a : Bytes) (s : String) : decode? a = some s ↔ encode s = a := by
  rw [decode?, Option.map_eq_some_iff]
  constructor
  · rintro ⟨cs, hcs, rfl⟩
    have hparts := (mapM_char?_eq_some_iff _ _).mp hcs
    rw [encode, String.toList_ofList, ← flatMap_bytes_parts a, hparts, List.flatMap_map]
    rfl
  · rintro rfl
    exact ⟨s.toList, (mapM_char?_eq_some_iff _ _).mpr (parts_encode s), String.ofList_toList⟩

theorem encode_injective : Function.Injective encode := by
  intro s t h
  have hs := (decode?_eq_some_iff _ s).mpr rfl
  rw [h, (decode?_eq_some_iff _ t).mpr rfl] at hs
  exact (Option.some.inj hs).symm

end Utf8

end CipherMeter
