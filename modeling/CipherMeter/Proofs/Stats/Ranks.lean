import CipherMeter.Proofs.Sorting
import CipherMeter.Proofs.Stats
import Mathlib.Data.List.Basic

/-!
Which of the durations a summary tells. The place of a duration in ascending order is told by
counting those that are shorter and those that are no longer, without sorting.
-/

namespace CipherMeter

namespace Duration

/-- The duration is the `k`-th of some in ascending order: fewer than `k` are shorter, and `k` or
more are no longer. -/
def HasRank (d : Duration) (k : ℕ) (ds : List Duration) : Prop :=
  ds.countP (fun e ↦ decide (e.nanos < d.nanos)) < k ∧
    k ≤ ds.countP fun e ↦ decide (e.nanos ≤ d.nanos)

theorem ext {d e : Duration} (h : d.nanos = e.nanos) : d = e := by
  cases d
  cases e
  simp_all only

theorem nanos_injective : Function.Injective nanos := by
  intro d e h
  exact ext h

theorem HasRank.le_length {d : Duration} {k : ℕ} {ds : List Duration} (h : d.HasRank k ds) :
    k ≤ ds.length :=
  Nat.le_trans h.2 List.countP_le_length

theorem HasRank.nanos_le {d e : Duration} {j k : ℕ} {ds : List Duration} (hd : d.HasRank j ds)
    (he : e.HasRank k ds) (hjk : j ≤ k) : d.nanos ≤ e.nanos := by
  by_contra hlt
  -- all that are no longer than `e` are shorter than `d`
  have hmono : ds.countP (fun x ↦ decide (x.nanos ≤ e.nanos)) ≤
      ds.countP fun x ↦ decide (x.nanos < d.nanos) := by
    apply List.countP_mono_left
    intro x _ hx
    simp only [decide_eq_true_eq] at hx ⊢
    omega
  have hfew := hd.1
  have hmany := he.2
  omega

/-- One duration at most has a rank. -/
theorem HasRank.unique {d e : Duration} {k : ℕ} {ds : List Duration} (hd : d.HasRank k ds)
    (he : e.HasRank k ds) : d = e :=
  ext (Nat.le_antisymm (hd.nanos_le he (Nat.le_refl k)) (he.nanos_le hd (Nat.le_refl k)))

theorem HasRank.mem {d : Duration} {k : ℕ} {ds : List Duration} (h : d.HasRank k ds) : d ∈ ds := by
  by_contra hd
  have hmono : ds.countP (fun e ↦ decide (e.nanos ≤ d.nanos)) ≤
      ds.countP fun e ↦ decide (e.nanos < d.nanos) := by
    apply List.countP_mono_left
    intro e he hle
    simp only [decide_eq_true_eq] at hle ⊢
    have hne : e.nanos ≠ d.nanos := fun heq ↦ hd (ext heq ▸ he)
    omega
  have hfew := h.1
  have hmany := h.2
  omega

theorem HasRank.le_of_one {d : Duration} {ds : List Duration} (h : d.HasRank 1 ds) :
    ∀ e ∈ ds, d ≤ e := by
  intro e he
  have hnone := List.countP_eq_zero.mp (Nat.lt_one_iff.mp h.1) e he
  rw [decide_eq_true_eq] at hnone
  exact Nat.le_of_not_lt hnone

theorem HasRank.le_of_length {d : Duration} {ds : List Duration} (h : d.HasRank ds.length ds) :
    ∀ e ∈ ds, e ≤ d := by
  intro e he
  have hall := List.countP_eq_length.mp (Nat.le_antisymm List.countP_le_length h.2) e he
  exact of_decide_eq_true hall

theorem HasRank.perm {d : Duration} {k : ℕ} {ds es : List Duration} (hd : d.HasRank k ds)
    (h : ds.Perm es) : d.HasRank k es := by
  rw [HasRank, ← h.countP_eq, ← h.countP_eq]
  exact hd

/-- In ascending order the ranks are the places. -/
theorem hasRank_getElem {ds : List Duration} (hds : ds.Pairwise fun d e ↦ d.nanos ≤ e.nanos) {i : ℕ}
    (hi : i < ds.length) : ds[i].HasRank (i + 1) ds := by
  have hle : ∀ j k (hj : j < ds.length) (hk : k < ds.length), j ≤ k →
      ds[j].nanos ≤ ds[k].nanos := by
    intro j k hj hk hjk
    rcases Nat.lt_or_eq_of_le hjk with hlt | rfl
    · exact List.pairwise_iff_getElem.mp hds j k hj hk hlt
    · exact Nat.le_refl _
  constructor
  · have hrest : (ds.drop i).countP (fun e ↦ decide (e.nanos < ds[i].nanos)) = 0 := by
      rw [List.countP_eq_zero]
      intro e he
      obtain ⟨j, hj, rfl⟩ := List.mem_drop_iff_getElem.mp he
      have h := hle i (i + j) hi (by omega) (by omega)
      simp only [decide_eq_true_eq]
      omega
    have hfirst : (ds.take i).countP (fun e ↦ decide (e.nanos < ds[i].nanos)) ≤ i :=
      Nat.le_trans List.countP_le_length (List.length_take_le i ds)
    have hsplit := congrArg (List.countP fun e ↦ decide (e.nanos < ds[i].nanos))
      (List.take_append_drop i ds)
    rw [List.countP_append] at hsplit
    omega
  · have hfirst : (ds.take (i + 1)).countP (fun e ↦ decide (e.nanos ≤ ds[i].nanos)) = i + 1 := by
      have hlength : (ds.take (i + 1)).length = i + 1 := by
        rw [List.length_take]
        omega
      have hall : ∀ e ∈ ds.take (i + 1), decide (e.nanos ≤ ds[i].nanos) = true := by
        intro e he
        obtain ⟨j, hj, rfl⟩ := List.mem_take_iff_getElem.mp he
        have h := hle j i (by omega) hi (by omega)
        simpa using h
      rw [List.countP_eq_length.mpr hall, hlength]
    have hsplit := congrArg (List.countP fun e ↦ decide (e.nanos ≤ ds[i].nanos))
      (List.take_append_drop (i + 1) ds)
    rw [List.countP_append] at hsplit
    omega

theorem add?_eq_some_iff {d e s : Duration} : d.add? e = some s ↔ s.nanos = d.nanos + e.nanos := by
  have hs := s.nanos_lt
  unfold add? ofNanos?
  split
  · rename_i hlt
    rw [Option.some_inj]
    constructor
    · rintro rfl
      rfl
    · intro h
      exact ext h.symm
  · rename_i hge
    refine ⟨fun h ↦ (nomatch h), fun h ↦ ?_⟩
    omega

theorem add?_eq_none_iff {d e : Duration} : d.add? e = none ↔ limit ≤ d.nanos + e.nanos := by
  unfold add? ofNanos?
  split
  · rename_i hlt
    refine ⟨fun h ↦ (nomatch h), fun h ↦ ?_⟩
    omega
  · rename_i hge
    exact ⟨fun _ ↦ Nat.le_of_not_lt hge, fun _ ↦ rfl⟩

end Duration

namespace Stats

variable {operation : String} {ds : List Duration} {lo hi : Duration}

theorem pairwise_sort (ds : List Duration) : (sort ds).Pairwise fun d e ↦ d.nanos ≤ e.nanos :=
  pairwise_mergeSort_on Duration.nanos ds

theorem eq_sort_iff_nanos {es : List Duration} :
    es = sort ds ↔ es.Perm ds ∧ es.Pairwise fun d e ↦ d.nanos ≤ e.nanos :=
  eq_mergeSort_iff (f := Duration.nanos) Duration.nanos_injective

/-- Sorting puts each duration in the place of its rank. -/
theorem getElem?_sort_eq_some_iff (ds : List Duration) (i : ℕ) (d : Duration) :
    (sort ds)[i]? = some d ↔ d.HasRank (i + 1) ds := by
  have hperm : (sort ds).Perm ds := List.mergeSort_perm ds _
  have hplace : ∀ hi : i < (sort ds).length, (sort ds)[i].HasRank (i + 1) ds :=
    fun hi ↦ (Duration.hasRank_getElem (pairwise_sort ds) hi).perm hperm
  constructor
  · intro h
    obtain ⟨hi, rfl⟩ := List.getElem?_eq_some_iff.mp h
    exact hplace hi
  · intro h
    have hi : i < (sort ds).length := by
      have hlength := h.le_length
      rw [length_sort]
      omega
    rw [List.getElem?_eq_getElem hi, (hplace hi).unique h]

/-- The middle of the durations: the one in the middle, or half of the sum of the two there. -/
theorem medianOf_sort (least : Duration) (hlo : lo.HasRank ((ds.length + 1) / 2) ds)
    (hhi : hi.HasRank (ds.length / 2 + 1) ds) :
    medianOf least (sort ds) =
      if ds.length % 2 = 1 then .ok hi
      else (orCrash .durationSum (lo.add? hi)).map Duration.half := by
  have hpos : 0 < (ds.length + 1) / 2 := Nat.zero_lt_of_lt hlo.1
  have hhigh : (sort ds).getD (ds.length / 2) least = hi := by
    rw [List.getD_eq_getElem?_getD, (getElem?_sort_eq_some_iff ds _ hi).mpr hhi, Option.getD_some]
  rw [medianOf, length_sort, hhigh]
  split
  · rfl
  · rename_i heven
    have hindex : (ds.length + 1) / 2 = ds.length / 2 - 1 + 1 := by omega
    rw [hindex] at hlo
    rw [List.getD_eq_getElem?_getD, (getElem?_sort_eq_some_iff ds _ lo).mpr hlo, Option.getD_some]

theorem ofSamples_eq_durationSum_iff : ofSamples operation ds = .error (.crash .durationSum) ↔
    ∃ least rest, sort ds = least :: rest ∧
      medianOf least (sort ds) = .error (.crash .durationSum) := by
  have hseconds : ∀ x : Option Duration,
      orCrash .secondsTooLarge x ≠ .error (.crash .durationSum) := by
    intro x
    cases x <;> exact nofun
  unfold ofSamples
  cases sort ds with
  | nil => exact ⟨fun h ↦ (nomatch h), fun ⟨_, _, h, _⟩ ↦ (nomatch h)⟩
  | cons least rest =>
    simp only [Except.bind_eq_error_iff, hseconds, false_or]
    constructor
    · rintro (h | ⟨_, _, _, _, _, _, h⟩)
      · exact ⟨least, rest, rfl, h⟩
      · cases h
    · rintro ⟨_, _, h, hmedian⟩
      cases h
      exact .inl hmedian

/-- What a summary tells of durations with `lo` and `hi` in the middle. -/
structure Summarizes (st : Stats) (ds : List Duration) (lo hi : Duration) : Prop where
  count_eq : st.count = ds.length
  min_mem : st.min ∈ ds
  max_mem : st.max ∈ ds
  min_le : ∀ d ∈ ds, st.min ≤ d
  le_max : ∀ d ∈ ds, d ≤ st.max
  nanos_median : st.median.nanos = (lo.nanos + hi.nanos) / 2
  median_of_odd : ds.length % 2 = 1 → st.median = lo ∧ st.median = hi
  min_le_median : st.min ≤ st.median
  median_le_max : st.median ≤ st.max

theorem summarizes_of_ofSamples {st : Stats} (h : ofSamples operation ds = .ok st)
    (hlo : lo.HasRank ((ds.length + 1) / 2) ds) (hhi : hi.HasRank (ds.length / 2 + 1) ds) :
    Summarizes st ds lo hi := by
  obtain ⟨least, rest, hsort, hmedian, -, -, -, hcount, hmin, hmax⟩ := ofSamples_eq_ok_iff.mp h
  have hlength : ds.length = rest.length + 1 := by
    rw [← length_sort, hsort, List.length_cons]
  have hfirst : st.min.HasRank 1 ds := by
    rw [← getElem?_sort_eq_some_iff ds 0, hsort, hmin]
    rfl
  have hlast : st.max.HasRank ds.length ds := by
    have hindex : ds.length - 1 < (sort ds).length := by
      rw [length_sort]
      omega
    have hplace : (sort ds)[ds.length - 1]? = some st.max := by
      rw [hmax, List.getLastD_eq_getLast?, List.getLast?_eq_getElem?, length_sort,
        List.getElem?_eq_getElem hindex, Option.getD_some]
    have hrank := (getElem?_sort_eq_some_iff ds _ _).mp hplace
    rwa [Nat.sub_add_cancel (by omega)] at hrank
  have hlohi := hlo.nanos_le hhi (by omega)
  have hmidst : st.median.nanos = (lo.nanos + hi.nanos) / 2 ∧
      (ds.length % 2 = 1 → st.median = lo ∧ st.median = hi) := by
    rw [medianOf_sort least hlo hhi] at hmedian
    split at hmedian
    · rename_i hodd
      have hsame : lo = hi := by
        have hrank : (ds.length + 1) / 2 = ds.length / 2 + 1 := by omega
        rw [hrank] at hlo
        exact hlo.unique hhi
      cases hmedian
      exact ⟨by rw [hsame]; omega, fun _ ↦ ⟨hsame.symm, rfl⟩⟩
    · rename_i heven
      obtain ⟨sum, hsum, hhalf⟩ := (Except.map_eq_ok_iff ..).mp hmedian
      cases hadd : lo.add? hi with
      | none =>
        rw [hadd] at hsum
        cases hsum
      | some s =>
        rw [hadd] at hsum
        cases hsum
        rw [← hhalf, ← Duration.add?_eq_some_iff.mp hadd]
        exact ⟨rfl, fun hodd ↦ absurd hodd heven⟩
  have hminlo := hfirst.nanos_le hlo (by omega)
  have hhimax := hhi.nanos_le hlast (by omega)
  exact {
    count_eq := hcount
    min_mem := hfirst.mem
    max_mem := hlast.mem
    min_le := hfirst.le_of_one
    le_max := hlast.le_of_length
    nanos_median := hmidst.1
    median_of_odd := hmidst.2
    min_le_median := by
      change st.min.nanos ≤ st.median.nanos
      omega
    median_le_max := by
      change st.median.nanos ≤ st.max.nanos
      omega }

/-- The sum of the two durations in the middle overflows just if their count is even and they make
up `2 ^ 64` seconds or more. -/
theorem overflows_iff (hlo : lo.HasRank ((ds.length + 1) / 2) ds)
    (hhi : hi.HasRank (ds.length / 2 + 1) ds) :
    ofSamples operation ds = .error (.crash .durationSum) ↔
      ds.length % 2 = 0 ∧ Duration.limit ≤ lo.nanos + hi.nanos := by
  have hne : sort ds ≠ [] := by
    rw [← List.length_pos_iff, length_sort]
    have hlength := hlo.le_length
    have hpos := hlo.1
    omega
  obtain ⟨least, rest, hsort⟩ := List.exists_cons_of_ne_nil hne
  have hmedian : ofSamples operation ds = .error (.crash .durationSum) ↔
      medianOf least (sort ds) = .error (.crash .durationSum) := by
    rw [ofSamples_eq_durationSum_iff]
    constructor
    · rintro ⟨_, _, h, hcrash⟩
      cases hsort.symm.trans h
      exact hcrash
    · intro hcrash
      exact ⟨least, rest, hsort, hcrash⟩
  rw [hmedian, medianOf_sort least hlo hhi, ← Duration.add?_eq_none_iff]
  split
  · rename_i hodd
    exact ⟨fun h ↦ (nomatch h), fun h ↦ by omega⟩
  · rename_i heven
    rw [and_iff_right (by omega), Except.map_eq_error_iff]
    cases lo.add? hi with
    | none => exact ⟨fun _ ↦ rfl, fun _ ↦ rfl⟩
    | some sum => exact ⟨fun h ↦ (nomatch h), fun h ↦ (nomatch h)⟩

theorem exists_hasRank (ds : List Duration) {k : ℕ} (hpos : 0 < k) (hk : k ≤ ds.length) :
    ∃ d : Duration, d.HasRank k ds := by
  obtain ⟨i, rfl⟩ := Nat.exists_eq_succ_of_ne_zero (Nat.ne_of_gt hpos)
  have hi : i < (sort ds).length := by
    rw [length_sort]
    omega
  exact ⟨(sort ds)[i], (getElem?_sort_eq_some_iff ds i _).mp (List.getElem?_eq_getElem hi)⟩

/-- The median lies between the least and the greatest. -/
theorem ordered_of_ofSamples {st : Stats} (h : ofSamples operation ds = .ok st) :
    st.min ≤ st.median ∧ st.median ≤ st.max := by
  obtain ⟨least, rest, hsort, -⟩ := ofSamples_eq_ok_iff.mp h
  have hpos : 0 < ds.length := by
    rw [← length_sort, hsort]
    exact Nat.zero_lt_succ _
  obtain ⟨lo, hlo⟩ := exists_hasRank ds (k := (ds.length + 1) / 2) (by omega) (by omega)
  obtain ⟨hi, hhi⟩ := exists_hasRank ds (k := ds.length / 2 + 1) (by omega) (by omega)
  have hsummary := summarizes_of_ofSamples h hlo hhi
  exact ⟨hsummary.min_le_median, hsummary.median_le_max⟩

theorem message_eq_durationSum_iff (c : Crash) :
    c.message = "overflow when adding durations" ↔ c = .durationSum := by
  cases c with
  | durationSum | secondsTooLarge | capacity => decide
  | outOfMemory size =>
    have hmessage : (Crash.outOfMemory size).message =
        "memory allocation of " ++ toString size ++ " bytes failed" := rfl
    rw [hmessage]
    constructor
    · intro h
      have hfirst := congrArg (fun s ↦ s.toList.head?) h
      simp at hfirst
    · intro h
      cases h

/-- Durations are summed up exactly: their count, the least, the greatest, and the median, which is
half of the sum of the two in the middle. Only this sum can overflow as a duration, and only no
durations at all are refused. -/
theorem ofSamples_exact (operation : String) :
    ofSamples operation [] = .error (.fault (.invalidInput (.noSamples operation))) ∧
    ∀ ds : List Duration, ds ≠ [] → ∃ lo hi : Duration,
      (∀ d : Duration, d.HasRank ((ds.length + 1) / 2) ds ↔ d = lo) ∧
      (∀ d : Duration, d.HasRank (ds.length / 2 + 1) ds ↔ d = hi) ∧
      ((∃ c, ofSamples operation ds = .error (.crash c) ∧
          c.message = "overflow when adding durations") ↔
        ds.length % 2 = 0 ∧ Duration.limit ≤ lo.nanos + hi.nanos) ∧
      ∀ st, ofSamples operation ds = .ok st → st.Summarizes ds lo hi := by
  refine ⟨ofSamples_eq_fault_iff.mpr ⟨rfl, rfl⟩, fun ds hds ↦ ?_⟩
  have hpos : 0 < ds.length := List.length_pos_iff.mpr hds
  obtain ⟨lo, hlo⟩ := exists_hasRank ds (k := (ds.length + 1) / 2) (by omega) (by omega)
  obtain ⟨hi, hhi⟩ := exists_hasRank ds (k := ds.length / 2 + 1) (by omega) (by omega)
  refine ⟨lo, hi, fun d ↦ ⟨fun h ↦ h.unique hlo, fun h ↦ h ▸ hlo⟩,
    fun d ↦ ⟨fun h ↦ h.unique hhi, fun h ↦ h ▸ hhi⟩, ?_, fun st h ↦ ?_⟩
  · simp only [message_eq_durationSum_iff, exists_eq_right]
    exact overflows_iff hlo hhi
  · exact summarizes_of_ofSamples h hlo hhi

/-- Three durations that are not in order, and two of which the sum overflows. -/
theorem ofSamples_exact_short :
    (∃ st, ofSamples "hmac" [⟨3, by decide⟩, ⟨1, by decide⟩, ⟨2, by decide⟩] = .ok st ∧
      st.count = 3 ∧ st.median.nanos = 2 ∧ st.min.nanos ≤ 1 ∧ 3 ≤ st.max.nanos) ∧
    ∃ c, ofSamples "hmac" [⟨Duration.limit - 1, by decide⟩, ⟨1, by decide⟩] = .error (.crash c) ∧
      c.message = "overflow when adding durations" := by
  obtain ⟨-, hexact⟩ := ofSamples_exact "hmac"
  constructor
  · have hsort : sort [⟨3, by decide⟩, ⟨1, by decide⟩, ⟨2, by decide⟩] =
        [⟨1, by decide⟩, ⟨2, by decide⟩, ⟨3, by decide⟩] :=
      (eq_sort_iff_nanos.mpr ⟨by decide, by decide⟩).symm
    have hfits : Fits "hmac" [⟨3, by decide⟩, ⟨1, by decide⟩, ⟨2, by decide⟩] := by
      rw [Fits, ofSamples, hsort]
      decide +kernel
    obtain ⟨st, hst⟩ := hfits.exists_eq_ok (List.cons_ne_nil _ _)
    obtain ⟨lo, hi, hlo, hhi, -, hsummary⟩ := hexact _ (List.cons_ne_nil _ _)
    have h := hsummary st hst
    have hmiddle := (hlo ⟨2, by decide⟩).mp ⟨by decide, by decide⟩
    have hmedian := (h.median_of_odd rfl).1
    refine ⟨st, hst, h.count_eq, ?_, h.min_le ⟨1, by decide⟩ (by simp),
      h.le_max ⟨3, by decide⟩ (by simp)⟩
    rw [hmedian, ← hmiddle]
  · obtain ⟨lo, hi, hlo, hhi, hoverflow, -⟩ := hexact
      [⟨Duration.limit - 1, by decide⟩, ⟨1, by decide⟩] (List.cons_ne_nil _ _)
    have hone := (hlo ⟨1, by decide⟩).mp ⟨by decide, by decide⟩
    have hmax := (hhi ⟨Duration.limit - 1, by decide⟩).mp ⟨by decide, by decide⟩
    refine hoverflow.mpr ⟨rfl, ?_⟩
    rw [← hone, ← hmax]
    decide

end Stats

end CipherMeter
