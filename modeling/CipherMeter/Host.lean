import CipherMeter.Generator
import CipherMeter.Journal

/-!
# What a benchmark asks of its surroundings

A benchmark needs a clock, files and a journal, and its inputs come from a random generator. It is
written for any monad that supplies them, and so runs on a machine as well as in a world that is a
value.
-/

namespace CipherMeter

class Clock (m : Type → Type) where
  now : m Duration
  /-- Computes a value at this step and no other. -/
  evaluate {α : Type} (f : Unit → α) : m α

instance {m n : Type → Type} [MonadLift m n] [Clock m] : Clock n where
  now := liftM (Clock.now : m Duration)
  evaluate f := liftM (Clock.evaluate f : m _)

class Host (m : Type → Type) extends Clock m where
  readFile : Path → m (Except IoError Bytes)
  writeFile : Path → Bytes → m (Except IoError Unit)
  record : Event → m Unit
  draw : Nat → m Bytes
  reseed : Seed → m Unit

section

variable {m : Type → Type} [Monad m] [MonadExceptOf Failure m] {α : Type}

def orFault : Except Fault α → m α
  | .ok a => pure a
  | .error fault => throw (.fault fault)

def orFail : Except Failure α → m α
  | .ok a => pure a
  | .error failure => throw failure

def orIoFault (path : Path) : Except IoError α → m α
  | .ok a => pure a
  | .error error => throw (.fault (.io path error))

end

end CipherMeter
