import CipherMeter.FileTree
import CipherMeter.Host

/-!
# Worlds

A world is a value that holds everything a benchmark asks of its surroundings: a file tree, the
readings of a clock, the state of a generator, and the journal so far. `Run` is computation in it: a
failure keeps what was done before.
-/

namespace CipherMeter

structure World where
  files : FileTree
  /-- What the clock shows at each reading. -/
  clock : Nat → Duration
  readings : Nat
  generator : Generator
  journal : List Event

abbrev Run := ExceptT Failure (StateM World)

namespace Run

variable {α : Type}

def step (f : World → α × World) : Run α := ExceptT.lift (modifyGet f)

instance : Host Run where
  now := step fun w ↦ (w.clock w.readings, { w with readings := w.readings + 1 })
  evaluate f := pure (f ())
  readFile p := step fun w ↦ (w.files.read p, w)
  writeFile p a := step fun w ↦
    match w.files.write p a with
    | .ok files => (.ok (), { w with files })
    | .error error => (.error error, w)
  record e := step fun w ↦ ((), { w with journal := w.journal ++ [e] })
  draw n := step fun w ↦
    let (a, generator) := w.generator.draw n
    (a, { w with generator })
  reseed seed := step fun w ↦ ((), { w with generator := .ofSeed seed })

/-- The outcome of a computation in a world, and the world after it. -/
def inWorld (c : Run α) (w : World) : Except Failure α × World := (ExceptT.run c).run w

end Run

end CipherMeter
