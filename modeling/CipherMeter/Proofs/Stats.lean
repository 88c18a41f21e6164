import CipherMeter.Proofs.Except
import CipherMeter.Stats

namespace CipherMeter

namespace Stats

variable {operation : String} {ds : List Duration} {st : Stats}

theorem length_sort (ds : List Duration) : (sort ds).length = ds.length := List.length_mergeSort ds

/-- What a summary says about the durations in ascending order. -/
theorem ofSamples_eq_ok_iff :
    ofSamples operation ds = .ok st ↔ ∃ least rest, sort ds = least :: rest ∧
      medianOf least (sort ds) = .ok st.median ∧
      orCrash .secondsTooLarge (Duration.ofSeconds? (meanOf ((sort ds).map Duration.toSeconds))) =
        .ok st.mean ∧
      orCrash .secondsTooLarge (Duration.ofSeconds? (varianceOf ((sort ds).map Duration.toSeconds)
        (meanOf ((sort ds).map Duration.toSeconds))).sqrt) = .ok st.stddev ∧
      st.operation = operation ∧ st.count = ds.length ∧ st.min = least ∧
      st.max = (sort ds).getLastD least := by
  rw [← length_sort ds]
  unfold ofSamples
  cases sort ds with
  | nil => exact ⟨fun h ↦ (nomatch h), fun ⟨_, _, h, _⟩ ↦ (nomatch h)⟩
  | cons least rest =>
    simp only [Except.bind_eq_ok_iff, List.cons.injEq]
    constructor
    · rintro ⟨median, hmedian, mean, hmean, stddev, hstddev, h⟩
      cases h
      exact ⟨least, rest, ⟨rfl, rfl⟩, hmedian, hmean, hstddev, rfl, rfl, rfl, rfl⟩
    · rintro ⟨_, _, ⟨rfl, rfl⟩, hmedian, hmean, hstddev, hop, hcount, hmin, hmax⟩
      refine ⟨_, hmedian, _, hmean, _, hstddev, ?_⟩
      rw [← hop, ← hcount, ← hmax, ← hmin]
      rfl

theorem orCrash_ne_fault {α : Type} (c : Crash) (x : Option α) (f : Fault) :
    orCrash c x ≠ .error (.fault f) := by
  cases x <;> exact nofun

theorem medianOf_ne_fault (least : Duration) (sorted : List Duration) (f : Fault) :
    medianOf least sorted ≠ .error (.fault f) := by
  unfold medianOf
  dsimp only
  split
  · exact nofun
  · cases hsum : (sorted.getD (sorted.length / 2 - 1) least).add?
      (sorted.getD (sorted.length / 2) least) <;> exact nofun

/-- There is no summary of no durations; any other summary is refused by a crash only. -/
theorem ofSamples_eq_fault_iff {f : Fault} :
    ofSamples operation ds = .error (.fault f) ↔
      ds = [] ∧ f = .invalidInput (.noSamples operation) := by
  rw [← List.length_eq_zero_iff, ← length_sort ds, List.length_eq_zero_iff]
  unfold ofSamples
  cases sort ds with
  | nil =>
    refine ⟨fun h ↦ ⟨rfl, ?_⟩, fun ⟨_, h⟩ ↦ h ▸ rfl⟩
    cases h
    rfl
  | cons least rest =>
    simp only [Except.bind_eq_error_iff, medianOf_ne_fault, orCrash_ne_fault, false_or]
    constructor
    · rintro ⟨_, _, _, _, _, _, h⟩
      cases h
    · exact fun h ↦ (nomatch h.1)

/-- The durations do not overflow their summary. -/
def Fits (operation : String) (ds : List Duration) : Prop :=
  ∀ c, ofSamples operation ds ≠ .error (.crash c)

instance {α : Type} (x : Except Failure α) : Decidable (∀ c, x ≠ .error (.crash c)) :=
  match x with
  | .ok _ | .error (.fault _) => .isTrue nofun
  | .error (.crash c) => .isFalse fun h ↦ h c rfl

instance : Decidable (Fits operation ds) :=
  inferInstanceAs (Decidable (∀ c, ofSamples operation ds ≠ .error (.crash c)))

theorem Fits.exists_eq_ok (h : Fits operation ds) (hds : ds ≠ []) :
    ∃ st, ofSamples operation ds = .ok st := by
  cases hst : ofSamples operation ds with
  | ok st => exact ⟨st, rfl⟩
  | error e =>
    cases e with
    | fault f => exact absurd (ofSamples_eq_fault_iff.mp hst).1 hds
    | crash c => exact absurd hst (h c)

/-- A summary counts every duration. -/
theorem count_of_ofSamples (h : ofSamples operation ds = .ok st) : st.count = ds.length := by
  obtain ⟨_, _, _, _, _, _, _, hcount, _⟩ := ofSamples_eq_ok_iff.mp h
  exact hcount

/-- The lines about an operation in a report: its median, and after more than one run all of its
statistics. -/
def timingLines (label operation : String) (iterations : ℕ) (st : Stats) : List String :=
  let headline := "Time taken to " ++ label ++ ": " ++ st.median.secondsText ++ " seconds"
  if 1 < iterations then
    [headline, "Stats for " ++ operation ++ ": " ++ ("n=" ++ toString iterations
      ++ " min=" ++ st.min.secondsText ++ " median=" ++ st.median.secondsText
      ++ " mean=" ++ st.mean.secondsText ++ " max=" ++ st.max.secondsText
      ++ " stddev=" ++ st.stddev.secondsText)]
  else [headline]

theorem lines_of_ofSamples (label : String) (h : ofSamples operation ds = .ok st) :
    st.lines label = timingLines label operation ds.length st := by
  obtain ⟨_, _, _, _, _, _, hoperation, hcount, _⟩ := ofSamples_eq_ok_iff.mp h
  rw [lines, timingLines, text, hoperation, hcount]
  split <;> rfl

end Stats

end CipherMeter
