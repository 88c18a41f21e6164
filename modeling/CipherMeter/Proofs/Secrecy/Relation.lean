import CipherMeter.Proofs.FileTree.Likeness
import CipherMeter.Proofs.Sampling

/-!
Two runs side by side, in worlds whose files differ in their contents and not in their lengths. They
are compared up to the durations that they measure; `T` says that both are shown the same times, and
then the durations are compared too.
-/

namespace CipherMeter

def Stats.untimed (s : Stats) : Stats :=
  ⟨s.operation, s.count, .zero, .zero, .zero, .zero, .zero⟩

def Event.untimed : Event → Event
  | roundTripDone size length _ _ authenticated =>
    roundTripDone size length .zero .zero authenticated
  | macDone length _ => macDone length .zero
  | e => e

variable {T : Prop} {α β α' β' : Type}

/-- The same up to durations, and altogether the same if the times are. -/
def Same (T : Prop) (untimed : α → α) (a b : α) : Prop := untimed a = untimed b ∧ (T → a = b)

theorem Same.refl (untimed : α → α) (a : α) : Same T untimed a a := ⟨rfl, fun _ ↦ rfl⟩

namespace Stats

theorem untimed_of_ofSamples {operation : String} {ds : List Duration} {st : Stats}
    (h : ofSamples operation ds = .ok st) :
    st.untimed = ⟨operation, ds.length, .zero, .zero, .zero, .zero, .zero⟩ := by
  obtain ⟨_, _, _, _, _, _, hoperation, hcount, _⟩ := ofSamples_eq_ok_iff.mp h
  rw [untimed, hoperation, hcount]

/-- Summaries of as many durations are the same up to durations, unless they crash. -/
theorem liftRel_ofSamples (operation : String) {ds₁ ds₂ : List Duration} (hne : ds₁ ≠ [])
    (hlength : ds₁.length = ds₂.length) (hT : T → ds₁ = ds₂)
    (hfit : T ∨ Fits operation ds₁ ∧ Fits operation ds₂) :
    Except.LiftRel (Same T untimed) (ofSamples operation ds₁) (ofSamples operation ds₂) := by
  rcases hfit with h | ⟨hfit₁, hfit₂⟩
  · rw [hT h]
    exact .refl (Same.refl untimed) _
  · have hne₂ : ds₂ ≠ [] := by
      rw [← List.length_pos_iff, ← hlength]
      exact List.length_pos_iff.mpr hne
    obtain ⟨st₁, h₁⟩ := hfit₁.exists_eq_ok hne
    obtain ⟨st₂, h₂⟩ := hfit₂.exists_eq_ok hne₂
    rw [h₁, h₂]
    refine .ok ⟨?_, fun h ↦ ?_⟩
    · rw [untimed_of_ofSamples h₁, untimed_of_ofSamples h₂, hlength]
    · rw [hT h, h₂] at h₁
      exact (Except.ok.inj h₁).symm

end Stats

namespace World

/-- Two worlds that differ in the contents of files, some events after the journals `j₁` and
`j₂`. -/
structure Alike (T : Prop) (j₁ j₂ : List Event) (w₁ w₂ : World) : Prop where
  files : w₁.files.Alike w₂.files
  times : T → w₁.clock = w₂.clock ∧ w₁.readings = w₂.readings
  events : ∃ es₁ es₂, w₁.journal = j₁ ++ es₁ ∧ w₂.journal = j₂ ++ es₂ ∧
    Same T (List.map Event.untimed) es₁ es₂

namespace Alike

variable {j₁ j₂ : List Event} {w₁ w₂ : World}

theorem start (hfiles : w₁.files.Alike w₂.files)
    (htimes : T → w₁.clock = w₂.clock ∧ w₁.readings = w₂.readings) :
    Alike T w₁.journal w₂.journal w₁ w₂ :=
  ⟨hfiles, htimes, [], [], (List.append_nil _).symm, (List.append_nil _).symm, .refl ..⟩

theorem note (h : Alike T j₁ j₂ w₁ w₂) {e₁ e₂ : Event} (he : Same T Event.untimed e₁ e₂) :
    Alike T j₁ j₂ (w₁.note [e₁]) (w₂.note [e₂]) where
  files := h.files
  times := h.times
  events := by
    obtain ⟨es₁, es₂, hj₁, hj₂, huntimed, hsame⟩ := h.events
    refine ⟨es₁ ++ [e₁], es₂ ++ [e₂], ?_, ?_, ?_, fun hT ↦ ?_⟩
    · rw [World.note, hj₁, List.append_assoc]
    · rw [World.note, hj₂, List.append_assoc]
    · rw [List.map_append, List.map_append, huntimed, List.map_singleton, List.map_singleton, he.1]
    · rw [hsame hT, he.2 hT]

theorem tick (h : Alike T j₁ j₂ w₁ w₂) (n : ℕ) : Alike T j₁ j₂ (w₁.tick n) (w₂.tick n) where
  files := h.files
  times hT := ⟨(h.times hT).1, congrArg (· + n) (h.times hT).2⟩
  events := h.events

theorem laps_eq (h : Alike T j₁ j₂ w₁ w₂) (hT : T) (n : ℕ) : w₁.laps n = w₂.laps n := by
  induction n generalizing w₁ w₂ with
  | zero => rfl
  | succ n ih =>
    obtain ⟨hclock, hreadings⟩ := h.times hT
    rw [laps, laps, ih (h.tick 2), lap, lap, hclock, hreadings]

end Alike

end World

namespace Run

/-- Two runs in like worlds have related outcomes or the same failure, and the worlds stay alike.
Where the times differ this is said of runs that do not crash, as a crash comes from the times. -/
def Related (T : Prop) (R : α → β → Prop) (c₁ : Run α) (c₂ : Run β) : Prop :=
  ∀ j₁ j₂ w₁ w₂, World.Alike T j₁ j₂ w₁ w₂ → (T ∨ ¬ Crashes c₁ w₁ ∧ ¬ Crashes c₂ w₂) →
    Except.LiftRel R (inWorld c₁ w₁).1 (inWorld c₂ w₂).1 ∧
      World.Alike T j₁ j₂ (inWorld c₁ w₁).2 (inWorld c₂ w₂).2

namespace Related

variable {R : α → β → Prop} {S : α' → β' → Prop}

theorem bind {c₁ : Run α} {c₂ : Run β} {f₁ : α → Run α'} {f₂ : β → Run β'}
    (hc : Related T R c₁ c₂) (hf : ∀ a b, R a b → Related T S (f₁ a) (f₂ b)) :
    Related T S (c₁ >>= f₁) (c₂ >>= f₂) := by
  intro j₁ j₂ w₁ w₂ hw hends
  have hfirst : T ∨ ¬ Crashes c₁ w₁ ∧ ¬ Crashes c₂ w₂ := by
    refine hends.imp_right fun ⟨h₁, h₂⟩ ↦ ⟨fun h ↦ h₁ (h.bind f₁), fun h ↦ h₂ (h.bind f₂)⟩
  obtain ⟨houtcome, hworld⟩ := hc j₁ j₂ w₁ w₂ hw hfirst
  rw [inWorld_bind, inWorld_bind]
  rcases h₁ : inWorld c₁ w₁ with ⟨o₁, w₁'⟩
  rcases h₂ : inWorld c₂ w₂ with ⟨o₂, w₂'⟩
  rw [h₁, h₂] at houtcome hworld
  cases houtcome with
  | error e => exact ⟨.error e, hworld⟩
  | ok hab =>
    refine hf _ _ hab j₁ j₂ w₁' w₂' hworld (hends.imp_right fun ⟨hn₁, hn₂⟩ ↦ ⟨?_, ?_⟩)
    · exact fun h ↦ hn₁ (h.of_bind_ok h₁)
    · exact fun h ↦ hn₂ (h.of_bind_ok h₂)

/-- Computations that leave the world alone are related by their outcomes. -/
theorem of_outcomes {c₁ : Run α} {c₂ : Run β} {x : Except Failure α} {y : Except Failure β}
    (h₁ : ∀ w, inWorld c₁ w = (x, w)) (h₂ : ∀ w, inWorld c₂ w = (y, w))
    (h : Except.LiftRel R x y) : Related T R c₁ c₂ := by
  intro j₁ j₂ w₁ w₂ hw _
  rw [h₁, h₂]
  exact ⟨h, hw⟩

theorem pure {a : α} {b : β} (h : R a b) : Related T R (pure a) (pure b) :=
  of_outcomes (fun _ ↦ rfl) (fun _ ↦ rfl) (.ok h)

theorem orFault {x : Except Fault α} {y : Except Fault β} (h : Except.LiftRel R x y) :
    Related T R (orFault x) (CipherMeter.orFault y) :=
  of_outcomes (fun w ↦ inWorld_orFault w x) (fun w ↦ inWorld_orFault w y) (h.mapError Failure.fault)

theorem orIoFault (path : Path) {x : Except IoError α} {y : Except IoError β}
    (h : Except.LiftRel R x y) : Related T R (orIoFault path x) (CipherMeter.orIoFault path y) := by
  cases h with
  | ok h => exact pure h
  | error e => exact of_outcomes (fun _ ↦ rfl) (fun _ ↦ rfl) (.error _)

theorem record {e₁ e₂ : Event} (h : Same T Event.untimed e₁ e₂) :
    Related T (fun _ _ ↦ True) (Host.record e₁) (Host.record e₂) := by
  intro j₁ j₂ w₁ w₂ hw _
  exact ⟨.ok trivial, hw.note h⟩

theorem readFile (path : Path) :
    Related T (Except.LiftRel fun a₁ a₂ : Bytes ↦ a₁.length = a₂.length)
      (Host.readFile path) (Host.readFile path) := by
  intro j₁ j₂ w₁ w₂ hw _
  exact ⟨.ok (hw.files.liftRel_read path), hw⟩

/-- A file that is loaded is told apart by its length only. -/
theorem read (path : Path) :
    Related T (fun a₁ a₂ : Bytes ↦ a₁.length = a₂.length) (Inputs.read path)
      (Inputs.read path) := by
  refine (readFile path).bind fun x y h ↦ (orIoFault path h).bind fun a₁ a₂ hlength ↦ ?_
  refine (record ?_).bind fun _ _ _ ↦ pure hlength
  rw [hlength]
  exact Same.refl ..

/-- Sampling gives the outputs of the two steps, and summaries that are the same up to durations. -/
theorem runWithSetup {ι κ : Type} (s : Sampler) (operation : String) (a : ι) (b : κ) (f : ι → α)
    (g : κ → β) :
    Related T (fun p q ↦ p.1 = f a ∧ q.1 = g b ∧ Same T Stats.untimed p.2 q.2)
      (s.runWithSetup operation (Pure.pure a) fun a ↦ Clock.evaluate fun _ ↦ f a)
      (s.runWithSetup operation (Pure.pure b) fun b ↦ Clock.evaluate fun _ ↦ g b) := by
  intro j₁ j₂ w₁ w₂ hw hends
  simp only [Crashes, Sampler.inWorld_runWithSetup_evaluate] at hends ⊢
  refine ⟨?_, hw.tick _⟩
  -- if the times differ, no crash means that they fit into both summaries
  refine (Stats.liftRel_ofSamples operation ?_ ?_ ?_ ?_).map fun st₁ st₂ hst ↦ ⟨rfl, rfl, hst⟩
  · rw [← List.length_pos_iff, World.length_laps]
    exact s.iterations_pos
  · rw [World.length_laps, World.length_laps]
  · exact fun hT ↦ hw.laps_eq hT _
  · refine hends.imp_right fun ⟨hn₁, hn₂⟩ ↦
      ⟨fun crash h ↦ hn₁ ⟨crash, ?_⟩, fun crash h ↦ hn₂ ⟨crash, ?_⟩⟩
    · rw [h]
      rfl
    · rw [h]
      rfl

end Related

/-- Two runs that cannot be told apart by what is shown of their outcomes and by the events that
they note: they agree up to durations unless one crashes, and agree altogether if the clocks do. -/
structure Indistinguishable (shown : α → β) (untimed : β → β) (c₁ c₂ : Run α) (w₁ w₂ : World) :
    Prop where
  of_not_crashes : ¬ Crashes c₁ w₁ → ¬ Crashes c₂ w₂ →
    (inWorld c₁ w₁).1.map (untimed ∘ shown) = (inWorld c₂ w₂).1.map (untimed ∘ shown) ∧
    ∃ es₁ es₂, (inWorld c₁ w₁).2.journal = w₁.journal ++ es₁ ∧
      (inWorld c₂ w₂).2.journal = w₂.journal ++ es₂ ∧
      es₁.map Event.untimed = es₂.map Event.untimed
  of_clock : w₁.clock = w₂.clock → w₁.readings = w₂.readings →
    (inWorld c₁ w₁).1.map shown = (inWorld c₂ w₂).1.map shown ∧
    ∃ es, (inWorld c₁ w₁).2.journal = w₁.journal ++ es ∧
      (inWorld c₂ w₂).2.journal = w₂.journal ++ es

theorem Related.indistinguishable {shown : α → β} {untimed : β → β} {c₁ c₂ : Run α}
    (h : ∀ T, Related T (fun a b ↦ Same T untimed (shown a) (shown b)) c₁ c₂) {w₁ w₂ : World}
    (hfiles : w₁.files.Alike w₂.files) : Indistinguishable shown untimed c₁ c₂ w₁ w₂ where
  of_not_crashes h₁ h₂ := by
    have hworlds : World.Alike False w₁.journal w₂.journal w₁ w₂ := .start hfiles nofun
    obtain ⟨houtcome, hworlds'⟩ := h False _ _ w₁ w₂ hworlds (.inr ⟨h₁, h₂⟩)
    obtain ⟨es₁, es₂, hes₁, hes₂, hes, -⟩ := hworlds'.events
    exact ⟨houtcome.map_eq fun _ _ h ↦ h.1, es₁, es₂, hes₁, hes₂, hes⟩
  of_clock hclock hreadings := by
    have hworlds : World.Alike True w₁.journal w₂.journal w₁ w₂ :=
      .start hfiles fun _ ↦ ⟨hclock, hreadings⟩
    obtain ⟨houtcome, hworlds'⟩ := h True _ _ w₁ w₂ hworlds (.inl trivial)
    obtain ⟨es₁, es₂, hes₁, hes₂, -, hes⟩ := hworlds'.events
    exact ⟨houtcome.map_eq fun _ _ h ↦ h.2 trivial, es₁, hes₁, hes trivial ▸ hes₂⟩

end Run

end CipherMeter
