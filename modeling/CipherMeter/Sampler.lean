import CipherMeter.Host
import CipherMeter.Stats

/-!
# Samplers

A sampler runs an operation some times to warm up and then some times by the clock. Every run is a
round: an input is prepared, which is not timed, and the operation is applied to it.
-/

namespace CipherMeter

structure Sampler where
  warmup : Nat
  iterations : Nat
  iterations_pos : 0 < iterations
  deriving DecidableEq

namespace Sampler

def maxIterations : Nat := 1000000

def make (warmup iterations : Nat) : Except Fault Sampler :=
  if h : iterations = 0 then .error (.invalidInput .noIterations)
  else if maxIterations < iterations then
    .error (.invalidInput (.iterationsAbove maxIterations iterations))
  else .ok ⟨warmup, iterations, Nat.pos_of_ne_zero h⟩

def single : Sampler := ⟨0, 1, by decide⟩

def debug (s : Sampler) : String :=
  "Sampler \x7b warmup: " ++ toString s.warmup ++ ", iterations: " ++ toString s.iterations
    ++ " \x7d"

section

variable {m : Type → Type} [Monad m] [Clock m] {ι α : Type}

@[specialize] def measure (operation : String) (f : m α) : m (α × Sample) := do
  let start ← Clock.now
  let output ← f
  let stop ← Clock.now
  return (output, ⟨operation, stop.since start⟩)

@[specialize] def warmUp (setup : m ι) (routine : ι → m α) : Nat → m Unit
  | 0 => pure ()
  | n + 1 => do
    let input ← setup
    let _ ← routine input
    warmUp setup routine n

@[specialize] def timedRound (operation : String) (setup : m ι) (routine : ι → m α) :
    m (α × Sample) := do
  let input ← setup
  measure operation (routine input)

/-- Timed rounds after one with the given output. The durations are kept, the latest first. -/
@[specialize] def timedRounds (operation : String) (setup : m ι) (routine : ι → m α) :
    Nat → α → List Duration → m (α × List Duration)
  | 0, output, durations => pure (output, durations)
  | n + 1, _, durations => do
    let (output, sample) ← timedRound operation setup routine
    timedRounds operation setup routine n output (sample.duration :: durations)

variable [MonadExceptOf Failure m]

/-- Runs all rounds. The output is that of the last round. -/
@[specialize] def runWithSetup (s : Sampler) (operation : String) (setup : m ι)
    (routine : ι → m α) : m (α × Stats) := do
  warmUp setup routine s.warmup
  let (first, sample) ← timedRound operation setup routine
  let (output, durations) ←
    timedRounds operation setup routine (s.iterations - 1) first [sample.duration]
  let stats ← orFail (Stats.ofSamples operation durations)
  return (output, stats)

@[specialize] def run (s : Sampler) (operation : String) (routine : m α) : m (α × Stats) :=
  runWithSetup s operation (pure ()) fun _ ↦ routine

end

end Sampler

end CipherMeter
