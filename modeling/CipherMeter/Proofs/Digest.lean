import CipherMeter.FixedBytes
import CipherMeter.Proofs.Hex
import CipherMeter.Proofs.Sorting

/-!
The order of digests against that of their texts. A byte is written with two digits, of which the
letters stand for more than the figures and come after them, so the first byte in which two digests
differ also decides between their texts.
-/

namespace CipherMeter

namespace Hex

theorem digitByte_lt_iff {m n : UInt8} (hm : m.toNat < 16) (hn : n.toNat < 16) :
    digitByte m < digitByte n ↔ m < n := by
  have hm := toNat_digitByte hm
  have hn := toNat_digitByte hn
  rw [UInt8.lt_iff_toNat_lt, UInt8.lt_iff_toNat_lt]
  omega

theorem digitByte_eq_iff {m n : UInt8} (hm : m.toNat < 16) (hn : n.toNat < 16) :
    digitByte m = digitByte n ↔ m = n := by
  have hm := toNat_digitByte hm
  have hn := toNat_digitByte hn
  rw [← UInt8.toNat_inj, ← UInt8.toNat_inj]
  omega

/-- One byte of each of two byte strings against its two digits. -/
theorem cons_digits_lt_iff (x y : UInt8) (a b : Bytes) :
    digitByte (x / 16) :: digitByte (x % 16) :: a < digitByte (y / 16) :: digitByte (y % 16) :: b ↔
      x < y ∨ x = y ∧ a < b := by
  obtain ⟨hx, hx'⟩ := toNat_halves x
  obtain ⟨hy, hy'⟩ := toNat_halves y
  have hbound := x.toNat_lt
  have hbound' := y.toNat_lt
  have hhigh : (x / 16).toNat < 16 ∧ (y / 16).toNat < 16 := by omega
  have hlow : (x % 16).toNat < 16 ∧ (y % 16).toNat < 16 := by omega
  have hlt : x < y ↔ x / 16 < y / 16 ∨ x / 16 = y / 16 ∧ x % 16 < y % 16 := by
    simp only [UInt8.lt_iff_toNat_lt, ← UInt8.toNat_inj]
    omega
  have heq : x = y ↔ x / 16 = y / 16 ∧ x % 16 = y % 16 := by
    simp only [← UInt8.toNat_inj]
    omega
  simp only [List.cons_lt_cons_iff, digitByte_lt_iff hhigh.1 hhigh.2,
    digitByte_lt_iff hlow.1 hlow.2, digitByte_eq_iff hhigh.1 hhigh.2,
    digitByte_eq_iff hlow.1 hlow.2, hlt, heq]
  tauto

/-- Writing keeps the order, also that of byte strings of different lengths. -/
theorem utf8_encode_lt_iff (a b : Bytes) :
    Utf8.encode (encode a) < Utf8.encode (encode b) ↔ a < b := by
  induction a generalizing b with
  | nil =>
    cases b with
    | nil => rfl
    | cons y b =>
      rw [utf8_encode_cons]
      exact iff_of_true (List.nil_lt_cons ..) (List.nil_lt_cons ..)
  | cons x a ih =>
    cases b with
    | nil => exact iff_of_false (List.not_lt_nil _) (List.not_lt_nil _)
    | cons y b =>
      rw [utf8_encode_cons, utf8_encode_cons, cons_digits_lt_iff, ih, List.cons_lt_cons_iff]

theorem encode_injective : Function.Injective encode := by
  intro a b h
  have hread := decode_encode a
  rw [h, decode_encode] at hread
  exact (Except.ok.inj hread).symm

end Hex

namespace Text

/-- Texts are sorted by their bytes. -/
def sort (ss : List String) : List String :=
  ss.mergeSort fun s t ↦ decide (Utf8.encode s ≤ Utf8.encode t)

theorem eq_sort_iff {ss ts : List String} : ts = sort ss ↔
    ts.Perm ss ∧ ts.Pairwise fun s t ↦ Utf8.encode s ≤ Utf8.encode t :=
  eq_mergeSort_iff Utf8.encode_injective

end Text

namespace Digest

variable {n : ℕ}

theorem toList_injective : Function.Injective (toList : Digest n → Bytes) := by
  intro ⟨d⟩ ⟨e⟩ h
  exact congrArg mk (Subtype.ext h)

/-- The first byte in which the digests differ is less in the first of them. -/
def Precedes (d e : Digest n) : Prop :=
  ∃ (i : ℕ) (x y : UInt8), (∀ j < i, d.toList[j]? = e.toList[j]?) ∧
    d.toList[i]? = some x ∧ e.toList[i]? = some y ∧ x < y

theorem lt_iff_precedes (d e : Digest n) : d < e ↔ d.Precedes e := by
  have hd := d.length_toList
  have he := e.length_toList
  have hlists : d < e ↔ d.toList < e.toList := Iff.rfl
  rw [hlists, List.lt_iff_exists]
  constructor
  · intro h
    rcases h with ⟨-, hshorter⟩ | ⟨i, hi, hi', hsame, hlt⟩
    · omega
    · refine ⟨i, _, _, ?_, List.getElem?_eq_getElem hi, List.getElem?_eq_getElem hi', hlt⟩
      intro j hj
      rw [List.getElem?_eq_getElem (by omega), List.getElem?_eq_getElem (by omega), hsame j hj]
  · intro ⟨i, x, y, hsame, hx, hy, hlt⟩
    obtain ⟨hi, rfl⟩ := List.getElem?_eq_some_iff.mp hx
    obtain ⟨hi', rfl⟩ := List.getElem?_eq_some_iff.mp hy
    refine .inr ⟨i, hi, hi', ?_, hlt⟩
    intro j hj
    have h := hsame j hj
    rwa [List.getElem?_eq_getElem (by omega), List.getElem?_eq_getElem (by omega),
      Option.some_inj] at h

theorem text_injective : Function.Injective (text : Digest n → String) :=
  Hex.encode_injective.comp toList_injective

theorem length_text (d : Digest n) : d.text.length = 2 * n := by
  rw [text, Hex.length_encode, length_toList]

theorem lt_iff_text (d e : Digest n) : d < e ↔ Utf8.encode d.text < Utf8.encode e.text :=
  (Hex.utf8_encode_lt_iff d.toList e.toList).symm

theorem le_iff_text (d e : Digest n) : d ≤ e ↔ Utf8.encode d.text ≤ Utf8.encode e.text :=
  not_congr (lt_iff_text e d)

theorem map_text_sort (ds : List (Digest n)) : (sort ds).map text = Text.sort (ds.map text) := by
  apply List.map_mergeSort
  intro d _ e _
  exact decide_eq_decide.mpr (le_iff_text d e)

theorem eq_sort_iff {ds es : List (Digest n)} :
    es = sort ds ↔ es.Perm ds ∧ es.Pairwise (· ≤ ·) :=
  eq_mergeSort_iff (f := toList) toList_injective

/-- Digests have the order of their texts, which tell them apart and are read back as them. So it is
the same whether digests are sorted and then written or written and then sorted. -/
theorem text_keeps_order (n : ℕ) :
    (∀ d e : Digest n, (d < e ↔ d.Precedes e) ∧
      (d < e ↔ Utf8.encode d.text < Utf8.encode e.text) ∧
      (d ≤ e ↔ Utf8.encode d.text ≤ Utf8.encode e.text) ∧ (d = e ↔ d.text = e.text)) ∧
    (∀ d : Digest n, d.text.length = 2 * n ∧
      (∀ c ∈ d.text.toList, '0' ≤ c ∧ c ≤ '9' ∨ 'a' ≤ c ∧ c ≤ 'f') ∧
      Hex.decodeOrFault d.text = .ok d.toList) ∧
    (∀ ds : List (Digest n), (sort ds).map text = Text.sort (ds.map text)) ∧
    (∀ ds es : List (Digest n), es = sort ds ↔ es.Perm ds ∧ es.Pairwise (· ≤ ·)) ∧
    ∀ ss ts : List String, ts = Text.sort ss ↔
      ts.Perm ss ∧ ts.Pairwise fun s t ↦ Utf8.encode s ≤ Utf8.encode t := by
  refine ⟨?_, ?_, map_text_sort, fun _ _ ↦ eq_sort_iff, fun _ _ ↦ Text.eq_sort_iff⟩
  · intro d e
    exact ⟨lt_iff_precedes d e, lt_iff_text d e, le_iff_text d e, text_injective.eq_iff.symm⟩
  · intro d
    refine ⟨length_text d, fun c hc ↦ Hex.lower_of_mem_encode hc, ?_⟩
    exact (Hex.decodeOrFault_eq_ok_iff ..).mpr (Hex.decode_encode d.toList)

/-- Two digests that differ first where one has a figure and the other a letter. -/
theorem text_keeps_order_figure_letter :
    let d : Digest 2 := ⟨[0x0A, 0x9F], rfl⟩
    let e : Digest 2 := ⟨[0x0A, 0xA0], rfl⟩
    d < e ∧ Utf8.encode "0a9f" < Utf8.encode "0aa0" ∧ (sort [e, d]).map text = ["0a9f", "0aa0"] ∧
      Hex.decodeOrFault "0aa0" = .ok [0x0A, 0xA0] := by
  intro d e
  have hd : d.text = "0a9f" := by decide +kernel
  have he : e.text = "0aa0" := by decide +kernel
  obtain ⟨horder, hread, -, hsorted, -⟩ := text_keeps_order 2
  have hlt : d < e := (horder d e).1.mpr ⟨1, 0x9F, 0xA0, by decide, rfl, rfl, by decide⟩
  have htexts := (horder d e).2.1.mp hlt
  have hsort : [d, e] = sort [e, d] := (hsorted _ _).mpr ⟨.swap .., by decide⟩
  have hcode := (hread e).2.2
  rw [hd, he] at htexts
  rw [he] at hcode
  rw [← hsort, List.map_cons, List.map_singleton, hd, he]
  exact ⟨hlt, htexts, rfl, hcode⟩

end Digest

end CipherMeter
