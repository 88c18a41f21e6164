import CipherMeter.Proofs.Sampling
import CipherMeter.Proofs.Stats.Ranks
import Mathlib.Data.List.Iterate

/-!
A sampler at work on a state, which the preparation of inputs shares with the operation. Each call
and each reading of the clock is observed, so that the rounds can be counted and it can be told what
is timed.
-/

namespace CipherMeter.Sampler

variable {σ ι α β γ : Type}

inductive Action (ι α : Type)
  | reading
  | setup (input : ι)
  | routine (input : ι) (output : α)
  deriving DecidableEq

/-- What has become of a state, the time, and what was done so far. -/
structure Scene (σ ι α : Type) where
  state : σ
  world : World
  actions : List (Action ι α)

/-- Computation that is observed. A failure keeps what was done before. -/
abbrev Observed (σ ι α : Type) := ExceptT Failure (StateM (Scene σ ι α))

def act (f : Scene σ ι α → β × Scene σ ι α) : Observed σ ι α β := ExceptT.lift (modifyGet f)

instance : Clock (Observed σ ι α) where
  now := act fun x ↦ (x.world.clock x.world.readings,
    { x with world := x.world.tick 1, actions := x.actions ++ [.reading] })
  evaluate f := pure (f ())

def observe (c : Observed σ ι α β) (x : Scene σ ι α) : Except Failure β × Scene σ ι α :=
  (ExceptT.run c).run x

theorem observe_now (s : σ) (w : World) (before : List (Action ι α)) :
    observe Clock.now ⟨s, w, before⟩ =
      (.ok (w.clock w.readings), ⟨s, w.tick 1, before ++ [.reading]⟩) := rfl

theorem observe_bind_of_ok {c : Observed σ ι α β} {b : β} (f : β → Observed σ ι α γ)
    {x y : Scene σ ι α} (h : observe c x = (.ok b, y)) :
    observe (c >>= f) x = observe (f b) y := by
  have hc : StateT.run c.run x = (.ok b, y) := h
  rw [observe, ExceptT.run_bind, StateT.run_bind, hc]
  rfl

theorem observe_orFail_map (o : Except Failure β) (f : β → γ) (x : Scene σ ι α) :
    observe (do return f (← orFail o)) x = (o.map f, x) := by
  cases o <;> rfl

/-- An operation on a state: how an input is prepared and what is done with it. -/
structure Task (σ ι α : Type) where
  setup : σ → ι × σ
  routine : ι → σ → α × σ

namespace Task

variable (t : Task σ ι α)

def prepare : Observed σ ι α ι := act fun x ↦
  ((t.setup x.state).1, { x with
    state := (t.setup x.state).2
    actions := x.actions ++ [.setup (t.setup x.state).1] })

def perform (i : ι) : Observed σ ι α α := act fun x ↦
  ((t.routine i x.state).1, { x with
    state := (t.routine i x.state).2
    actions := x.actions ++ [.routine i (t.routine i x.state).1] })

/-- The input of a round that begins with the state `s`. -/
def input (s : σ) : ι := (t.setup s).1

/-- The output of a round, and the state after it. -/
def round (s : σ) : α × σ := t.routine (t.setup s).1 (t.setup s).2

def output (s : σ) : α := (t.round s).1

def next (s : σ) : σ := (t.round s).2

/-- What is done in a round without the clock. -/
def untimed (s : σ) : List (Action ι α) :=
  [.setup (t.input s), .routine (t.input s) (t.output s)]

/-- What is done in a round by the clock: the preparation is not timed. -/
def timed (s : σ) : List (Action ι α) :=
  [.setup (t.input s), .reading, .routine (t.input s) (t.output s), .reading]

/-- What is done in all rounds of a sampler, one after the other. -/
def allRounds (warmup iterations : ℕ) (s : σ) : List (Action ι α) :=
  (List.iterate t.next s warmup).flatMap t.untimed ++
    (List.iterate t.next (t.next^[warmup] s) iterations).flatMap t.timed

variable (s : σ) (w : World) (before : List (Action ι α)) (operation : String)

theorem observe_prepare : observe t.prepare ⟨s, w, before⟩ =
    (.ok (t.input s), ⟨(t.setup s).2, w, before ++ [.setup (t.input s)]⟩) := rfl

theorem observe_perform : observe (t.perform (t.input s)) ⟨(t.setup s).2, w, before⟩ =
    (.ok (t.output s), ⟨t.next s, w, before ++ [.routine (t.input s) (t.output s)]⟩) := rfl

theorem observe_warmUp (n : ℕ) : observe (warmUp t.prepare t.perform n) ⟨s, w, before⟩ =
    (.ok (), ⟨t.next^[n] s, w, before ++ (List.iterate t.next s n).flatMap t.untimed⟩) := by
  induction n generalizing s before with
  | zero =>
    rw [List.iterate, List.flatMap_nil, List.append_nil]
    rfl
  | succ n ih =>
    rw [warmUp, observe_bind_of_ok _ (t.observe_prepare s w before),
      observe_bind_of_ok _ (t.observe_perform s w _), ih]
    simp [untimed]

theorem observe_timedRound : observe (timedRound operation t.prepare t.perform) ⟨s, w, before⟩ =
    (.ok (t.output s, ⟨operation, w.lap⟩), ⟨t.next s, w.tick 2, before ++ t.timed s⟩) := by
  rw [timedRound, observe_bind_of_ok _ (t.observe_prepare s w before), measure,
    observe_bind_of_ok _ (observe_now _ w _), observe_bind_of_ok _ (t.observe_perform s _ _),
    observe_bind_of_ok _ (observe_now _ _ _)]
  simp [timed]
  rfl

/-- Timed rounds that follow one from the state `s`. -/
theorem observe_timedRounds (n : ℕ) (ds : List Duration) :
    observe (timedRounds operation t.prepare t.perform n (t.output s) ds) ⟨t.next s, w, before⟩ =
      (.ok (t.output (t.next^[n] s), w.laps n ++ ds), ⟨t.next^[n + 1] s, w.tick (2 * n),
        before ++ (List.iterate t.next (t.next s) n).flatMap t.timed⟩) := by
  induction n generalizing s w before ds with
  | zero =>
    rw [List.iterate, List.flatMap_nil, List.append_nil]
    rfl
  | succ n ih =>
    rw [timedRounds, observe_bind_of_ok _ (t.observe_timedRound (t.next s) w before operation), ih]
    simp [World.laps, Nat.mul_succ, Nat.add_comm 2]

/-- All rounds are done in their order, and then the times are summed up. -/
theorem observe_runWithSetup (sampler : Sampler) :
    observe (sampler.runWithSetup operation t.prepare t.perform) ⟨s, w, before⟩ =
      ((Stats.ofSamples operation (w.laps sampler.iterations)).map
          (t.output (t.next^[sampler.warmup + sampler.iterations - 1] s), ·),
        ⟨t.next^[sampler.warmup + sampler.iterations] s, w.tick (2 * sampler.iterations),
          before ++ t.allRounds sampler.warmup sampler.iterations s⟩) := by
  obtain ⟨warmup, iterations, hpos⟩ := sampler
  obtain ⟨n, rfl⟩ := Nat.exists_eq_succ_of_ne_zero (Nat.ne_of_gt hpos)
  rw [runWithSetup, observe_bind_of_ok _ (t.observe_warmUp s w before warmup),
    observe_bind_of_ok _ (t.observe_timedRound _ w _ operation),
    observe_bind_of_ok _ (t.observe_timedRounds _ _ _ operation _ _)]
  have hrounds (k : ℕ) : t.next^[k] (t.next^[warmup] s) = t.next^[warmup + k] s := by
    rw [Nat.add_comm, Function.iterate_add_apply]
  have htimes : (w.tick 2).laps n ++ [w.lap] = w.laps (n + 1) := rfl
  have hticks : 2 + 2 * n = 2 * (n + 1) := by omega
  simp only [Nat.succ_eq_add_one, Nat.add_sub_cancel, World.tick_tick, hrounds, htimes, hticks]
  rw [observe_orFail_map]
  simp [allRounds]

end Task

/-- A sampler does as many rounds as it is made for, each with an input of its own, and nothing
else; the clock is read at both ends of the operation in a timed round. The output is that of the
last round. Without an input to prepare the rounds are the same. -/
theorem runWithSetup_does_all_rounds {sampler : Sampler} {warmup iterations : ℕ}
    (h : make warmup iterations = .ok sampler ∨ (warmup = 0 ∧ iterations = 1) ∧ sampler = single)
    (t : Task σ ι α) (operation : String) (s : σ) (w : World) :
    (∃ o, observe (sampler.runWithSetup operation t.prepare t.perform) ⟨s, w, []⟩ =
        (o, ⟨t.next^[warmup + iterations] s, w.tick (2 * iterations),
          t.allRounds warmup iterations s⟩) ∧
      (∀ fault, o ≠ .error (.fault fault)) ∧
      (Stats.Fits operation (w.laps iterations) → ∃ st,
        o = .ok (t.output (t.next^[warmup + iterations - 1] s), st) ∧ st.count = iterations ∧
          st.min ≤ st.median ∧ st.median ≤ st.max)) ∧
    ∀ (m : Type → Type) [Monad m] [Clock m] [MonadExceptOf Failure m] (routine : m α),
      sampler.run operation routine = sampler.runWithSetup operation (pure ()) fun _ ↦ routine := by
  obtain ⟨rfl, rfl⟩ : sampler.warmup = warmup ∧ sampler.iterations = iterations := by
    rcases h with h | ⟨⟨rfl, rfl⟩, rfl⟩
    · exact (make_eq_ok_iff.mp h).2
    · exact ⟨rfl, rfl⟩
  have hpos : 0 < (w.laps sampler.iterations).length := by
    rw [World.length_laps]
    exact sampler.iterations_pos
  refine ⟨⟨_, t.observe_runWithSetup s w [] operation sampler, ?_, ?_⟩, fun _ _ _ _ _ ↦ rfl⟩
  · intro fault hfault
    have hsamples := (Except.map_eq_error_iff ..).mp hfault
    exact List.length_pos_iff.mp hpos (Stats.ofSamples_eq_fault_iff.mp hsamples).1
  · intro hfit
    obtain ⟨st, hst⟩ := World.exists_summary sampler.iterations_pos hfit
    have hcount := Stats.count_of_ofSamples hst
    rw [World.length_laps] at hcount
    rw [hst]
    exact ⟨st, rfl, hcount, Stats.ordered_of_ofSamples hst⟩

/-- A counter that both sides advance: one round to warm up and two timed ones. -/
theorem runWithSetup_does_all_rounds_counter :
    let t : Task ℕ ℕ ℕ := ⟨fun s ↦ (s, s + 1), fun i s ↦ (1000 * i + s, s + 1)⟩
    let w : World := .still (.empty [])
    ∃ st, observe (runWithSetup ⟨1, 2, by decide⟩ "count" t.prepare t.perform) ⟨0, w, []⟩ =
      (.ok (4005, st), ⟨6, w.tick 4,
        [.setup 0, .routine 0 1, .setup 2, .reading, .routine 2 2003, .reading,
          .setup 4, .reading, .routine 4 4005, .reading]⟩) ∧
      st.count = 2 := by
  intro t w
  have hmake : make 1 2 = .ok ⟨1, 2, by decide⟩ := rfl
  obtain ⟨⟨o, hrun, -, hfit⟩, -⟩ := runWithSetup_does_all_rounds (.inl hmake) t "count" 0 w
  have hfits : Stats.Fits "count" (w.laps 2) := by
    have hsort : Stats.sort (w.laps 2) = w.laps 2 := List.mergeSort_of_pairwise (by decide +kernel)
    rw [Stats.Fits, Stats.ofSamples, hsort]
    decide +kernel
  obtain ⟨st, rfl, hcount, -⟩ := hfit hfits
  exact ⟨st, hrun, hcount⟩

end CipherMeter.Sampler
