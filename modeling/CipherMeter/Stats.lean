import CipherMeter.Duration
import CipherMeter.Fault

/-!
# Statistics of timed runs

The summary of the durations of an operation. Least, median and greatest are exact; mean and
standard deviation are computed in floating-point seconds, over the durations in ascending order,
and rounded back to nanoseconds. A report gives the median of an operation a line of its own, and
all statistics another one if there was more than one run.
-/

namespace CipherMeter

structure Sample where
  operation : String
  duration : Duration
  deriving DecidableEq, Repr

structure Stats where
  operation : String
  count : Nat
  min : Duration
  median : Duration
  mean : Duration
  max : Duration
  /-- The standard deviation of the runs taken as a sample; none for a single run. -/
  stddev : Duration
  deriving DecidableEq, Repr

namespace Stats

def sort (ds : List Duration) : List Duration := ds.mergeSort fun d e ↦ decide (d ≤ e)

def orCrash {α : Type} (c : Crash) : Option α → Except Failure α
  | some a => .ok a
  | none => .error (.crash c)

def medianOf (least : Duration) (sorted : List Duration) : Except Failure Duration :=
  let n := sorted.length
  let high := sorted.getD (n / 2) least
  if n % 2 = 1 then .ok high
  else
    let low := sorted.getD (n / 2 - 1) least
    (orCrash .durationSum (low.add? high)).map Duration.half

def sum (xs : List Float) : Float := xs.foldl (· + ·) 0

def meanOf (xs : List Float) : Float := sum xs / xs.length.toFloat

def varianceOf (xs : List Float) (mean : Float) : Float :=
  if xs.length ≤ 1 then 0
  else sum (xs.map fun x ↦ (x - mean) * (x - mean)) / (xs.length - 1).toFloat

def ofSamples (operation : String) (ds : List Duration) : Except Failure Stats := do
  match sort ds with
  | [] => throw (.fault (.invalidInput (.noSamples operation)))
  | least :: rest =>
    let sorted := least :: rest
    let median ← medianOf least sorted
    let seconds := sorted.map Duration.toSeconds
    let mean := meanOf seconds
    let variance := varianceOf seconds mean
    return {
      operation
      count := sorted.length
      min := least
      median
      mean := ← orCrash .secondsTooLarge (Duration.ofSeconds? mean)
      max := sorted.getLastD least
      stddev := ← orCrash .secondsTooLarge (Duration.ofSeconds? variance.sqrt) }

def text (s : Stats) : String :=
  "n=" ++ toString s.count ++ " min=" ++ s.min.secondsText ++ " median=" ++ s.median.secondsText
    ++ " mean=" ++ s.mean.secondsText ++ " max=" ++ s.max.secondsText
    ++ " stddev=" ++ s.stddev.secondsText

def lines (s : Stats) (label : String) : List String :=
  ("Time taken to " ++ label ++ ": " ++ s.median.secondsText ++ " seconds") ::
    if 1 < s.count then ["Stats for " ++ s.operation ++ ": " ++ s.text] else []

end Stats

end CipherMeter
