import CipherMeter.Proofs.Stats.Ranks

/-!
A summary does not depend on the order in which durations come. Floating-point sums do, but they are
taken over the durations in ascending order, and there is only one way to bring them into it.
-/

namespace CipherMeter

/-- Whole seconds are compared first, then what is left of a second. -/
def Duration.Precedes (d e : Duration) : Prop :=
  d.seconds < e.seconds ∨ d.seconds = e.seconds ∧ d.subsecond ≤ e.subsecond

theorem Duration.precedes_iff (d e : Duration) : d.Precedes e ↔ d.nanos ≤ e.nanos := by
  simp only [Precedes, seconds, subsecond, perSecond]
  omega

namespace Stats

/-- Sorting gives the one arrangement of the durations that ascends. -/
theorem eq_sort_iff {ds es : List Duration} :
    es = sort ds ↔ es.Perm ds ∧ es.Pairwise Duration.Precedes := by
  have horder : es.Pairwise Duration.Precedes ↔ es.Pairwise fun d e ↦ d.nanos ≤ e.nanos :=
    List.Pairwise.iff Duration.precedes_iff
  rw [horder, eq_sort_iff_nanos]

theorem sort_congr {ds es : List Duration} (h : ds.Perm es) : sort ds = sort es := by
  obtain ⟨hperm, hsorted⟩ := eq_sort_iff.mp (rfl : sort ds = sort ds)
  exact eq_sort_iff.mpr ⟨hperm.trans h, hsorted⟩

theorem ofSamples_congr (operation : String) {ds es : List Duration} (h : ds.Perm es) :
    ofSamples operation ds = ofSamples operation es := by
  unfold ofSamples
  rw [sort_congr h]

/-- Durations in another order have the same summary in every field, with the same texts, or are
refused in the same way: they are summed up over the one arrangement of them that ascends. -/
theorem ofSamples_of_perm (operation : String) {ds es : List Duration} (h : ds.Perm es) :
    ofSamples operation ds = ofSamples operation es ∧
    (∀ label, (ofSamples operation ds).map (fun st ↦ (st.text, st.lines label)) =
      (ofSamples operation es).map fun st ↦ (st.text, st.lines label)) ∧
    sort ds = sort es ∧
    ∀ ts, ts = sort ds ↔ ts.Perm ds ∧ ts.Pairwise Duration.Precedes := by
  refine ⟨ofSamples_congr operation h, ?_, sort_congr h, fun _ ↦ eq_sort_iff⟩
  intro label
  rw [ofSamples_congr operation h]

/-- One duration twice among three, and two of which the sum overflows. -/
theorem ofSamples_of_perm_short :
    let a : Duration := ⟨1, by decide⟩
    let b : Duration := ⟨3, by decide⟩
    let c : Duration := ⟨Duration.limit - 1, by decide⟩
    ofSamples "hmac" [b, a, b] = ofSamples "hmac" [a, b, b] ∧ sort [b, a, b] = [a, b, b] ∧
      ofSamples "hmac" [c, a] = ofSamples "hmac" [a, c] := by
  intro a b c
  have hthree : [b, a, b].Perm [a, b, b] := by decide
  have htwo : [c, a].Perm [a, c] := by decide
  obtain ⟨hsame, -, -, harranged⟩ := ofSamples_of_perm "hmac" hthree
  have hsorted : [a, b, b].Pairwise Duration.Precedes := by
    simp [Duration.precedes_iff, a, b]
  exact ⟨hsame, ((harranged _).mpr ⟨hthree.symm, hsorted⟩).symm, (ofSamples_of_perm "hmac" htwo).1⟩

end Stats

end CipherMeter
