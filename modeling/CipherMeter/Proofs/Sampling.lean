import CipherMeter.Proofs.Run
import CipherMeter.Proofs.Stats
import CipherMeter.Sampler

namespace CipherMeter

namespace World

/-- The time between the next two readings of the clock. -/
def lap (w : World) : Duration := (w.clock (w.readings + 1)).since (w.clock w.readings)

/-- The times between the next `n` pairs of readings, the latest first. -/
def laps (w : World) : ℕ → List Duration
  | 0 => []
  | n + 1 => (w.tick 2).laps n ++ [w.lap]

@[simp] theorem length_laps (w : World) (n : ℕ) : (w.laps n).length = n := by
  induction n generalizing w with
  | zero => rfl
  | succ n ih => rw [laps, List.length_append, ih, List.length_singleton]

@[simp] theorem laps_note (w : World) (es : List Event) (n : ℕ) :
    (w.note es).laps n = w.laps n := by
  induction n generalizing w with
  | zero => rfl
  | succ n ih => exact congrArg (· ++ [w.lap]) (ih (w.tick 2))

/-- Times that do not overflow are summed up, if there are any. -/
theorem exists_summary {w : World} {n : ℕ} {operation : String} (hn : 1 ≤ n)
    (h : Stats.Fits operation (w.laps n)) :
    ∃ st, Stats.ofSamples operation (w.laps n) = .ok st := by
  apply h.exists_eq_ok
  rw [← List.length_pos_iff, length_laps]
  exact hn

end World

namespace Sampler

open Run

theorem make_eq_ok_iff {warmup iterations : ℕ} {s : Sampler} :
    make warmup iterations = .ok s ↔
      iterations ≤ maxIterations ∧ s.warmup = warmup ∧ s.iterations = iterations := by
  have hpos := s.iterations_pos
  unfold make
  split
  · exact ⟨fun h ↦ (nomatch h), fun h ↦ by omega⟩
  · split
    · exact ⟨fun h ↦ (nomatch h), fun h ↦ by omega⟩
    · rename_i hle
      constructor
      · intro h
        cases h
        exact ⟨Nat.le_of_not_lt hle, rfl, rfl⟩
      · rintro ⟨-, rfl, rfl⟩
        rfl

section

variable {ι α : Type} {setup : Run ι} {routine : ι → Run α} {a : ι} {b : α}
variable (hs : ∀ w, inWorld setup w = (.ok a, w)) (hr : ∀ w, inWorld (routine a) w = (.ok b, w))
variable (operation : String)

include hs hr

theorem inWorld_warmUp (n : ℕ) (w : World) : inWorld (warmUp setup routine n) w = (.ok (), w) := by
  induction n with
  | zero => rfl
  | succ n ih => rw [warmUp, inWorld_bind_of_ok _ (hs w), inWorld_bind_of_ok _ (hr w), ih]

theorem inWorld_timedRound (w : World) :
    inWorld (timedRound operation setup routine) w = (.ok (b, ⟨operation, w.lap⟩), w.tick 2) := by
  rw [timedRound, inWorld_bind_of_ok _ (hs w), measure, inWorld_bind_of_ok _ (inWorld_now w),
    inWorld_bind_of_ok _ (hr _)]
  rfl

theorem inWorld_timedRounds (n : ℕ) (w : World) (ds : List Duration) :
    inWorld (timedRounds operation setup routine n b ds) w =
      (.ok (b, w.laps n ++ ds), w.tick (2 * n)) := by
  induction n generalizing w ds with
  | zero => rfl
  | succ n ih =>
    rw [timedRounds, inWorld_bind_of_ok _ (inWorld_timedRound hs hr operation w), ih,
      World.tick_tick, World.laps, List.append_assoc, Nat.mul_succ, Nat.add_comm 2]
    rfl

/-- Sampling a step that leaves the world alone reads the clock twice a timed round and gives
the step's output, however many rounds there are. -/
theorem inWorld_runWithSetup (s : Sampler) (w : World) :
    inWorld (s.runWithSetup operation setup routine) w =
      ((Stats.ofSamples operation (w.laps s.iterations)).map (b, ·),
        w.tick (2 * s.iterations)) := by
  obtain ⟨n, hn⟩ := Nat.exists_eq_succ_of_ne_zero (Nat.ne_of_gt s.iterations_pos)
  rw [runWithSetup, inWorld_bind_of_ok _ (inWorld_warmUp hs hr s.warmup w),
    inWorld_bind_of_ok _ (inWorld_timedRound hs hr operation w),
    inWorld_bind_of_ok _ (inWorld_timedRounds hs hr operation _ _ _), World.tick_tick, hn,
    inWorld_bind, inWorld_orFail]
  have htick : 2 + 2 * (n.succ - 1) = 2 * n.succ := by omega
  rw [htick]
  have hlaps : (w.tick 2).laps (n.succ - 1) ++ [w.lap] = w.laps n.succ := rfl
  simp only [hlaps]
  cases Stats.ofSamples operation (w.laps n.succ) <;> rfl

end

theorem inWorld_runWithSetup_evaluate {ι α : Type} (s : Sampler) (operation : String) (a : ι)
    (f : ι → α) (w : World) :
    inWorld (s.runWithSetup operation (pure a) fun a ↦ Clock.evaluate fun _ ↦ f a) w =
      ((Stats.ofSamples operation (w.laps s.iterations)).map (f a, ·),
        w.tick (2 * s.iterations)) := by
  refine inWorld_runWithSetup (a := a) ?_ ?_ operation s w
  · exact fun _ ↦ rfl
  · exact fun w ↦ inWorld_evaluate w _

theorem inWorld_runWithSetup_evaluate_eq_ok_iff {ι α : Type} (s : Sampler) (operation : String)
    (a : ι) (f : ι → α) (w w' : World) (b : α) (st : Stats) :
    inWorld (s.runWithSetup operation (pure a) fun a ↦ Clock.evaluate fun _ ↦ f a) w =
        (.ok (b, st), w') ↔
      b = f a ∧ Stats.ofSamples operation (w.laps s.iterations) = .ok st ∧
        w' = w.tick (2 * s.iterations) := by
  rw [inWorld_runWithSetup_evaluate, Prod.mk.injEq, ← and_assoc]
  refine and_congr ?_ eq_comm
  cases Stats.ofSamples operation (w.laps s.iterations) with
  | ok st' =>
    simp only [Except.map, Except.ok.injEq, Prod.mk.injEq, eq_comm]
  | error e => exact ⟨fun h ↦ (nomatch h), fun h ↦ (nomatch h.2)⟩

/-- Sampling crashes only if the times overflow. -/
theorem not_crashes_runWithSetup_evaluate_bind {ι α β : Type} {s : Sampler} {operation : String}
    {a : ι} {f : ι → α} {g : α × Stats → Run β} {w : World}
    (hfit : Stats.Fits operation (w.laps s.iterations))
    (hg : ∀ st, Stats.ofSamples operation (w.laps s.iterations) = .ok st →
      ¬ Crashes (g (f a, st)) (w.tick (2 * s.iterations))) :
    ¬ Crashes (s.runWithSetup operation (pure a) (fun a ↦ Clock.evaluate fun _ ↦ f a) >>= g) w := by
  refine not_crashes_bind ?_ fun ⟨b, st⟩ w' h ↦ ?_
  · rintro ⟨crash, hcrash⟩
    rw [inWorld_runWithSetup_evaluate] at hcrash
    exact hfit crash ((Except.map_eq_error_iff ..).mp hcrash)
  · obtain ⟨rfl, hst, rfl⟩ := (inWorld_runWithSetup_evaluate_eq_ok_iff ..).mp h
    exact hg st hst

end Sampler

end CipherMeter
