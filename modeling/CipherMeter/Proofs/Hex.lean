import CipherMeter.Proofs.Except
import CipherMeter.Proofs.Path

/-!
Hexadecimal text read against hexadecimal text written. Reading works on the bytes of a text, so the
letters and the marker at the front are first followed down to the bytes.
-/

namespace CipherMeter.Hex

/-- The text after at most one `0x` at its front. -/
def unmarked (s : String) : String :=
  match s.toList with
  | '0' :: 'x' :: cs => .ofList cs
  | _ => s

/-- The byte with a capital letter of ASCII made small. -/
def lowerByte (b : UInt8) : UInt8 := if 65 ≤ b ∧ b ≤ 90 then b + 32 else b

/-- The byte of a digit. -/
def digitByte (n : UInt8) : UInt8 := if n < 10 then n + 48 else n + 87

theorem toNat_lowerByte (b : UInt8) :
    (65 ≤ b.toNat ∧ b.toNat ≤ 90) ∧ (lowerByte b).toNat = b.toNat + 32 ∨
      ¬(65 ≤ b.toNat ∧ b.toNat ≤ 90) ∧ (lowerByte b).toNat = b.toNat := by
  simp only [lowerByte, UInt8.le_iff_toNat_le, UInt8.reduceToNat]
  split
  · simp only [UInt8.toNat_add, UInt8.reduceToNat]
    omega
  · omega

theorem toNat_digitByte {n : UInt8} (h : n.toNat < 16) :
    n.toNat < 10 ∧ (digitByte n).toNat = n.toNat + 48 ∨
      10 ≤ n.toNat ∧ (digitByte n).toNat = n.toNat + 87 := by
  simp only [digitByte, UInt8.lt_iff_toNat_lt, UInt8.reduceToNat]
  split
  · simp only [UInt8.toNat_add, UInt8.reduceToNat]
    omega
  · simp only [UInt8.toNat_add, UInt8.reduceToNat]
    omega

theorem toNat_value? (b : UInt8) : (value? b).map UInt8.toNat =
    if 48 ≤ b.toNat ∧ b.toNat ≤ 57 then some (b.toNat - 48)
    else if 97 ≤ b.toNat ∧ b.toNat ≤ 102 then some (b.toNat - 87)
    else if 65 ≤ b.toNat ∧ b.toNat ≤ 70 then some (b.toNat - 55)
    else none := by
  simp only [value?, UInt8.le_iff_toNat_le, UInt8.reduceToNat, apply_ite (Option.map UInt8.toNat),
    Option.map_some, Option.map_none, UInt8.toNat_sub]
  split
  · congr 1
    omega
  · split
    · congr 1
      omega
    · split
      · congr 1
        omega
      · rfl

theorem value?_eq_some_iff (b v : UInt8) :
    value? b = some v ↔ v.toNat < 16 ∧ lowerByte b = digitByte v := by
  have hinjective : Function.Injective UInt8.toNat := fun _ _ ↦ UInt8.toNat_inj.mp
  have hlower := toNat_lowerByte b
  have hdigit : v.toNat < 16 → _ := toNat_digitByte
  rw [← (Option.map_injective hinjective).eq_iff, toNat_value?,
    ← UInt8.toNat_inj (a := lowerByte b), Option.map_some]
  split
  · rw [Option.some.injEq]
    omega
  · split
    · rw [Option.some.injEq]
      omega
    · split
      · rw [Option.some.injEq]
        omega
      · simp only [reduceCtorEq, false_iff]
        omega

theorem readDigit_eq_ok_iff (position : ℕ) (b v : UInt8) :
    readDigit position b = .ok v ↔ v.toNat < 16 ∧ lowerByte b = digitByte v := by
  rw [← value?_eq_some_iff, readDigit]
  cases value? b with
  | some v' => rw [Except.ok.injEq, Option.some.injEq]
  | none => exact ⟨nofun, nofun⟩

theorem digit_eq {n : UInt8} (h : n.toNat < 16) : digit n = Char.ofNat (digitByte n).toNat := by
  have hdigit := toNat_digitByte h
  rw [digit]
  congr 1
  simp only [UInt8.lt_iff_toNat_lt, UInt8.reduceToNat]
  split <;> omega

theorem utf8EncodeChar_digit {n : UInt8} (h : n.toNat < 16) :
    String.utf8EncodeChar (digit n) = [digitByte n] := by
  have hdigit := toNat_digitByte h
  rw [digit_eq h, Utf8.utf8EncodeChar_ofNat (by omega)]

theorem toNat_halves (b : UInt8) :
    (b / 16).toNat = b.toNat / 16 ∧ (b % 16).toNat = b.toNat % 16 :=
  ⟨UInt8.toNat_div .., UInt8.toNat_mod ..⟩

theorem utf8_encode_cons (b : UInt8) (a : Bytes) :
    Utf8.encode (encode (b :: a)) =
      digitByte (b / 16) :: digitByte (b % 16) :: Utf8.encode (encode a) := by
  have hbound := b.toNat_lt
  obtain ⟨hhigh, hlow⟩ := toNat_halves b
  rw [Utf8.encode, Utf8.encode, encode, encode, String.toList_ofList, String.toList_ofList,
    List.flatMap_cons, List.flatMap_append, digits, List.flatMap_cons, List.flatMap_singleton,
    utf8EncodeChar_digit (by omega), utf8EncodeChar_digit (by omega)]
  rfl

/-- Two digits make up a byte just if they are its halves. -/
theorem join_eq_iff {high low b : UInt8} (hhigh : high.toNat < 16) (hlow : low.toNat < 16) :
    high * 16 + low = b ↔ high = b / 16 ∧ low = b % 16 := by
  obtain ⟨hdiv, hmod⟩ := toNat_halves b
  have hbound := b.toNat_lt
  simp only [← UInt8.toNat_inj, hdiv, hmod, UInt8.toNat_add, UInt8.toNat_mul, UInt8.reduceToNat]
  omega

/-- Pairs of digits are read as the bytes that are written with the same digits in small letters. -/
theorem readPairs_eq_ok_iff (position : ℕ) (a b : Bytes) :
    readPairs position a = .ok b ↔ a.map lowerByte = Utf8.encode (encode b) := by
  induction position, a using readPairs.induct generalizing b with
  | case1 =>
    cases b with
    | nil => exact ⟨fun _ ↦ rfl, fun _ ↦ rfl⟩
    | cons x b =>
      rw [utf8_encode_cons]
      exact ⟨nofun, nofun⟩
  | case2 =>
    cases b with
    | nil => exact ⟨nofun, nofun⟩
    | cons x b =>
      rw [utf8_encode_cons]
      exact ⟨nofun, fun h ↦ nomatch (List.cons.inj h).2⟩
  | case3 position x y a ih =>
    simp only [readPairs, Except.bind_eq_ok_iff, readDigit_eq_ok_iff, ih]
    constructor
    · rintro ⟨high, ⟨hhigh, hx⟩, low, ⟨hlow, hy⟩, rest, hrest, h⟩
      cases h
      obtain ⟨hdiv, hmod⟩ := (join_eq_iff hhigh hlow).mp rfl
      rw [utf8_encode_cons, ← hdiv, ← hmod, List.map_cons, List.map_cons, hx, hy, hrest]
    · intro h
      cases b with
      | nil => cases h
      | cons z b =>
        rw [utf8_encode_cons, List.map_cons, List.map_cons, List.cons.injEq, List.cons.injEq] at h
        obtain ⟨hdiv, hmod⟩ := toNat_halves z
        have hz := z.toNat_lt
        have hhigh : (z / 16).toNat < 16 := by omega
        have hlow : (z % 16).toNat < 16 := by omega
        refine ⟨z / 16, ⟨hhigh, h.1⟩, z % 16, ⟨hlow, h.2.1⟩, b, h.2.2, ?_⟩
        rw [(join_eq_iff hhigh hlow).mpr ⟨rfl, rfl⟩]
        rfl

theorem length_utf8_encode (a : Bytes) : (Utf8.encode (encode a)).length = 2 * a.length := by
  induction a with
  | nil => rfl
  | cons b a ih =>
    rw [utf8_encode_cons, List.length_cons, List.length_cons, ih, List.length_cons]
    omega

theorem dropMarker_of_ne {a : Bytes} (h : ∀ r, a ≠ 0x30 :: 0x78 :: r) : dropMarker a = a := by
  unfold dropMarker
  split
  · exact absurd rfl (h _)
  · rfl

theorem unmarked_of_eq {s : String} {cs : List Char} (h : s.toList = '0' :: 'x' :: cs) :
    unmarked s = String.ofList cs := by
  rw [unmarked, h]
  rfl

theorem unmarked_of_ne {s : String} (h : ∀ cs, s.toList ≠ '0' :: 'x' :: cs) : unmarked s = s := by
  unfold unmarked
  split
  · rename_i cs hcs
    exact absurd hcs (h cs)
  · rfl

/-- The marker at the front of a text is that at the front of its bytes. -/
theorem dropMarker_encode (s : String) : dropMarker (Utf8.encode s) = Utf8.encode (unmarked s) := by
  by_cases h : ∃ cs, s.toList = '0' :: 'x' :: cs
  · obtain ⟨cs, hcs⟩ := h
    rw [unmarked_of_eq hcs, Utf8.encode, hcs, Utf8.encode, String.toList_ofList]
    rfl
  · rw [not_exists] at h
    rw [unmarked_of_ne h]
    refine dropMarker_of_ne fun r hr ↦ ?_
    -- the two bytes are characters by themselves, so they are the first two of the text
    have hparts := Utf8.parts_encode s
    rw [hr] at hparts
    obtain ⟨c, cs, hs, hc, hcs⟩ := List.map_eq_cons_iff.mp hparts.symm
    obtain ⟨d, ds, rfl, hd, -⟩ := List.map_eq_cons_iff.mp hcs
    cases hc
    cases hd
    exact h ds hs

theorem decode_eq_ok_iff_map_lowerByte (s : String) (b : Bytes) :
    decode s = .ok b ↔ (Utf8.encode (unmarked s)).map lowerByte = Utf8.encode (encode b) := by
  rw [decode, dropMarker_encode, ← readPairs_eq_ok_iff 0]
  split
  · rename_i hodd
    refine ⟨nofun, fun h ↦ ?_⟩
    have hlength := congrArg List.length ((readPairs_eq_ok_iff 0 _ b).mp h)
    rw [List.length_map, length_utf8_encode] at hlength
    omega
  · exact Iff.rfl

theorem toLower_cases (c : Char) :
    (65 ≤ c.val.toNat ∧ c.val.toNat ≤ 90) ∧ c.toLower.val.toNat = c.val.toNat + 32 ∨
      ¬(65 ≤ c.val.toNat ∧ c.val.toNat ≤ 90) ∧ c.toLower = c := by
  unfold Char.toLower
  split
  · rename_i h
    simp only [ge_iff_le, UInt32.le_iff_toNat_le, Char.reduceVal, UInt32.reduceToNat] at h
    refine .inl ⟨h, ?_⟩
    simp only [Char.reduceVal, UInt32.reduceSub, UInt32.toNat_add, UInt32.reduceToNat]
    omega
  · rename_i h
    simp only [ge_iff_le, UInt32.le_iff_toNat_le, Char.reduceVal, UInt32.reduceToNat] at h
    exact .inr ⟨h, rfl⟩

/-- A character with its letter of ASCII made small has its bytes made small. -/
theorem utf8EncodeChar_toLower (c : Char) :
    String.utf8EncodeChar c.toLower = (String.utf8EncodeChar c).map lowerByte := by
  rcases Nat.lt_or_ge c.val.toNat 0x80 with hc | hc
  · have hbyte := Utf8.toNat_ofNat_of_lt (n := c.val.toNat) (by omega)
    have hlower := toNat_lowerByte (.ofNat c.val.toNat)
    rw [Utf8.utf8EncodeChar_of_one hc, List.map_singleton]
    rcases toLower_cases c with ⟨hrange, hvalue⟩ | ⟨hrange, hsame⟩
    · rw [Utf8.utf8EncodeChar_of_one (by omega)]
      congr 1
      rw [← UInt8.toNat_inj, Utf8.toNat_ofNat_of_lt (by omega)]
      omega
    · rw [hsame, Utf8.utf8EncodeChar_of_one hc]
      congr 1
      rw [← UInt8.toNat_inj]
      omega
  · have hsame : c.toLower = c := by
      rcases toLower_cases c with ⟨hrange, -⟩ | ⟨-, hsame⟩
      · omega
      · exact hsame
    have hbytes : (String.utf8EncodeChar c).map lowerByte = (String.utf8EncodeChar c).map id := by
      refine List.map_congr_left fun b hb ↦ ?_
      have hb := Utf8.le_of_mem_utf8EncodeChar hc hb
      have hlower := toNat_lowerByte b
      rw [id, ← UInt8.toNat_inj]
      omega
    rw [hsame, hbytes, List.map_id]

theorem toList_toLower (s : String) : s.toLower.toList = s.toList.map Char.toLower :=
  String.toList_map

theorem encode_toLower (s : String) :
    Utf8.encode s.toLower = (Utf8.encode s).map lowerByte := by
  rw [Utf8.encode, toList_toLower, List.flatMap_map, Utf8.encode, List.map_flatMap]
  simp only [utf8EncodeChar_toLower]

/-- Exactly the texts of a byte string are read as it, with or without the marker and in letters of
either case. -/
theorem decode_eq_ok_iff (s : String) (b : Bytes) :
    decode s = .ok b ↔ (unmarked s).toLower = encode b := by
  rw [decode_eq_ok_iff_map_lowerByte, ← encode_toLower, Utf8.encode_injective.eq_iff]

theorem toNat_digit {n : UInt8} (h : n.toNat < 16) :
    n.toNat < 10 ∧ (digit n).val.toNat = n.toNat + 48 ∨
      10 ≤ n.toNat ∧ (digit n).val.toNat = n.toNat + 87 := by
  have hdigit := toNat_digitByte h
  have hvalue : (Char.ofNat (digitByte n).toNat).val.toNat = (digitByte n).toNat :=
    Utf8.toNat_ofNat_of_valid (.inl (by omega))
  rw [digit_eq h, hvalue]
  exact hdigit

theorem isHexDigit_iff (c : Char) : c.isHexDigit = true ↔
    (48 ≤ c.val.toNat ∧ c.val.toNat ≤ 57) ∨ (97 ≤ c.val.toNat ∧ c.val.toNat ≤ 102) ∨
      (65 ≤ c.val.toNat ∧ c.val.toNat ≤ 70) := by
  simp only [Char.isHexDigit, Char.isDigit, ge_iff_le, UInt32.le_iff_toNat_le, Char.reduceVal,
    UInt32.reduceToNat, Bool.or_eq_true, Bool.and_eq_true, decide_eq_true_eq, or_assoc]

theorem eq_digit_of_toNat {c : Char} {v : ℕ} (hv : v < 16)
    (hc : v < 10 ∧ c.val.toNat = v + 48 ∨ 10 ≤ v ∧ c.val.toNat = v + 87) :
    ∃ n : UInt8, n.toNat < 16 ∧ c = digit n := by
  have hn := Utf8.toNat_ofNat_of_lt (n := v) (by omega)
  have hdigit := toNat_digit (n := .ofNat v) (by omega)
  refine ⟨.ofNat v, by omega, Char.ext (UInt32.toNat_inj.mp ?_)⟩
  omega

/-- The digits that are written have small letters. -/
theorem exists_digit_iff (c : Char) : (∃ n : UInt8, n.toNat < 16 ∧ c = digit n) ↔
    (48 ≤ c.val.toNat ∧ c.val.toNat ≤ 57) ∨ (97 ≤ c.val.toNat ∧ c.val.toNat ≤ 102) := by
  constructor
  · rintro ⟨n, hn, rfl⟩
    have hdigit := toNat_digit hn
    omega
  · rintro (h | h)
    · exact eq_digit_of_toNat (v := c.val.toNat - 48) (by omega) (by omega)
    · exact eq_digit_of_toNat (v := c.val.toNat - 87) (by omega) (by omega)

theorem isHexDigit_iff_exists (c : Char) :
    c.isHexDigit = true ↔ ∃ n : UInt8, n.toNat < 16 ∧ c.toLower = digit n := by
  rw [isHexDigit_iff, exists_digit_iff]
  rcases toLower_cases c with ⟨hrange, hvalue⟩ | ⟨hrange, hsame⟩
  · omega
  · rw [hsame]
    omega

theorem exists_digits_iff (x y : Char) : (∃ b, [x, y] = digits b) ↔
    (∃ n : UInt8, n.toNat < 16 ∧ x = digit n) ∧ ∃ n : UInt8, n.toNat < 16 ∧ y = digit n := by
  constructor
  · rintro ⟨b, h⟩
    have hb := b.toNat_lt
    obtain ⟨hdiv, hmod⟩ := toNat_halves b
    cases h
    exact ⟨⟨b / 16, by omega, rfl⟩, ⟨b % 16, by omega, rfl⟩⟩
  · rintro ⟨⟨high, hhigh, rfl⟩, ⟨low, hlow, rfl⟩⟩
    obtain ⟨hdiv, hmod⟩ := (join_eq_iff hhigh hlow).mp rfl
    refine ⟨high * 16 + low, ?_⟩
    rw [digits, ← hdiv, ← hmod]

theorem exists_cons_cons_iff (x y : Char) (cs : List Char) :
    (∃ b : Bytes, x :: y :: cs = b.flatMap digits) ↔
      (∃ z, [x, y] = digits z) ∧ ∃ b : Bytes, cs = b.flatMap digits := by
  constructor
  · rintro ⟨b | ⟨z, b⟩, h⟩
    · cases h
    · cases h
      exact ⟨⟨z, rfl⟩, b, rfl⟩
  · rintro ⟨⟨z, hz⟩, b, rfl⟩
    exact ⟨z :: b, congrArg (· ++ b.flatMap digits) hz⟩

/-- The characters written for byte strings are the digits, an even number of them. -/
theorem exists_flatMap_digits_iff : ∀ cs : List Char, (∃ b : Bytes, cs = b.flatMap digits) ↔
    cs.length % 2 = 0 ∧ ∀ c ∈ cs, ∃ n : UInt8, n.toNat < 16 ∧ c = digit n
  | [] => ⟨fun _ ↦ ⟨rfl, fun _ h ↦ (nomatch h)⟩, fun _ ↦ ⟨[], rfl⟩⟩
  | [x] => by
    refine ⟨?_, fun h ↦ nomatch h.1⟩
    rintro ⟨b | ⟨z, b⟩, h⟩
    · cases h
    · exact nomatch (List.cons.inj h).2
  | x :: y :: cs => by
    have hlength : (x :: y :: cs).length % 2 = cs.length % 2 := by
      rw [List.length_cons, List.length_cons]
      omega
    rw [exists_cons_cons_iff, exists_digits_iff, exists_flatMap_digits_iff cs, hlength,
      List.forall_mem_cons, List.forall_mem_cons]
    tauto

theorem encode_eq_iff (s : String) (b : Bytes) : s = encode b ↔ s.toList = b.flatMap digits := by
  rw [encode, ← String.toList_inj, String.toList_ofList]

/-- The texts that are read are an even number of digits, with or without the marker. -/
theorem exists_decode_eq_ok_iff (s : String) : (∃ b, decode s = .ok b) ↔
    (unmarked s).length % 2 = 0 ∧ ∀ c ∈ (unmarked s).toList, c.isHexDigit = true := by
  simp only [decode_eq_ok_iff, encode_eq_iff, exists_flatMap_digits_iff, isHexDigit_iff_exists,
    toList_toLower, List.length_map, List.forall_mem_map, String.length_toList]

theorem length_encode (b : Bytes) : (encode b).length = 2 * b.length := by
  rw [encode, String.length_ofList]
  induction b with
  | nil => rfl
  | cons x b ih =>
    have hx : (digits x).length = 2 := rfl
    rw [List.flatMap_cons, List.length_append, ih, List.length_cons, hx]
    omega

theorem range_of_mem_encode {b : Bytes} {c : Char} (h : c ∈ (encode b).toList) :
    (48 ≤ c.val.toNat ∧ c.val.toNat ≤ 57) ∨ (97 ≤ c.val.toNat ∧ c.val.toNat ≤ 102) := by
  have hall := ((exists_flatMap_digits_iff (encode b).toList).mp
    ⟨b, (encode_eq_iff _ b).mp rfl⟩).2
  exact (exists_digit_iff c).mp (hall c h)

/-- The letters among the digits that are written are small. -/
theorem lower_of_mem_encode {b : Bytes} {c : Char} (h : c ∈ (encode b).toList) :
    '0' ≤ c ∧ c ≤ '9' ∨ 'a' ≤ c ∧ c ≤ 'f' := by
  simp only [Char.le_def, UInt32.le_iff_toNat_le, Char.reduceVal, UInt32.reduceToNat]
  exact range_of_mem_encode h

theorem toLower_encode (b : Bytes) : (encode b).toLower = encode b := by
  have hsame : ∀ c ∈ (encode b).toList, c.toLower = id c := by
    intro c hc
    have hrange := range_of_mem_encode hc
    rcases toLower_cases c with ⟨hupper, -⟩ | ⟨-, hsame⟩
    · omega
    · exact hsame
  rw [← String.toList_inj, toList_toLower, List.map_congr_left hsame, List.map_id]

theorem unmarked_encode (b : Bytes) : unmarked (encode b) = encode b := by
  refine unmarked_of_ne fun cs h ↦ ?_
  have hx : 'x' ∈ (encode b).toList := by
    rw [h]
    exact List.mem_cons_of_mem _ List.mem_cons_self
  have hrange := range_of_mem_encode hx
  simp only [Char.reduceVal, UInt32.reduceToNat] at hrange
  omega

theorem unmarked_append (s : String) : unmarked ("0x" ++ s) = s := by
  have h : ("0x" ++ s).toList = '0' :: 'x' :: s.toList := by
    rw [String.toList_append]
    rfl
  rw [unmarked_of_eq h, String.ofList_toList]

theorem decode_encode (b : Bytes) : decode (encode b) = .ok b := by
  rw [decode_eq_ok_iff, unmarked_encode, toLower_encode]

/-- A text in which something else than digits is left is not read. -/
theorem decode_ne_ok {s : String} {c : Char} (hc : c ∈ (unmarked s).toList)
    (hdigit : c.isHexDigit = false) (b : Bytes) : decode s ≠ .ok b := by
  intro h
  have hall := ((exists_decode_eq_ok_iff s).mp ⟨b, h⟩).2 c hc
  rw [hdigit] at hall
  cases hall

theorem decodeOrFault_eq_ok_iff (s : String) (b : Bytes) :
    decodeOrFault s = .ok b ↔ decode s = .ok b :=
  Except.mapError_eq_ok_iff ..

theorem exitCode_of_decodeOrFault {s : String} {f : Fault} (h : decodeOrFault s = .error f) :
    f.exitCode = 65 := by
  obtain ⟨e, -, rfl⟩ := (Except.mapError_eq_error_iff ..).mp h
  rfl

/-- Reading accepts exactly the digits in pairs, in letters of either case and after at most one
marker, and inverts writing. -/
theorem decodeOrFault_grammar :
    (∀ s b, decodeOrFault s = .ok b ↔ (unmarked s).toLower = encode b) ∧
    (∀ b, decodeOrFault (encode b) = .ok b ∧ decodeOrFault ("0x" ++ encode b) = .ok b) ∧
    (∀ b, (encode b).length = 2 * b.length ∧
      ∀ c ∈ (encode b).toList, '0' ≤ c ∧ c ≤ '9' ∨ 'a' ≤ c ∧ c ≤ 'f') ∧
    (∀ s, (∃ b, decodeOrFault s = .ok b) ↔
      (unmarked s).length % 2 = 0 ∧ ∀ c ∈ (unmarked s).toList, c.isHexDigit = true) ∧
    (∀ s b, decodeOrFault ("0X" ++ s) ≠ .ok b ∧ decodeOrFault ("0x0x" ++ s) ≠ .ok b) ∧
    decodeOrFault "0x" = .ok [] ∧ decodeOrFault "" = .ok [] := by
  simp only [ne_eq, decodeOrFault_eq_ok_iff]
  refine ⟨decode_eq_ok_iff, fun b ↦ ⟨decode_encode b, ?_⟩, fun b ↦ ⟨length_encode b, ?_⟩,
    exists_decode_eq_ok_iff, fun s b ↦ ⟨?_, ?_⟩, rfl, rfl⟩
  · rw [decode_eq_ok_iff, unmarked_append, toLower_encode]
  · intro c hc
    simp only [Char.le_def, UInt32.le_iff_toNat_le, Char.reduceVal, UInt32.reduceToNat]
    exact range_of_mem_encode hc
  · have hunmarked : unmarked ("0X" ++ s) = "0X" ++ s := by
      refine unmarked_of_ne fun cs h ↦ ?_
      rw [String.toList_append] at h
      cases h
    refine decode_ne_ok (c := 'X') ?_ rfl b
    rw [hunmarked, String.toList_append]
    exact List.mem_append_left _ (by decide)
  · refine decode_ne_ok (c := 'x') ?_ rfl b
    have hsplit : "0x0x" ++ s = "0x" ++ ("0x" ++ s) := by
      rw [← String.append_assoc]
      rfl
    rw [hsplit, unmarked_append, String.toList_append]
    exact List.mem_append_left _ (by decide)

end CipherMeter.Hex
