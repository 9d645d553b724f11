import Waymark.Log.Event
import Waymark.Number.Decimal

/-!
# Sampling

A busy program shows a fraction of its events. Warnings and errors always pass
and are not counted; of all others every `n`-th passes, the first one included,
where `n` is the whole part of one divided by the rate.
-/

namespace Waymark.Log

/-- Which events are shown. -/
inductive SamplingMode where
  | all
  /-- Warnings and errors. -/
  | errorOnly
  /-- Warnings and errors, and a fraction of all others. -/
  | sampled
  deriving DecidableEq

namespace SamplingMode

/-- The mode of a name; an unknown name shows everything. -/
def read (s : String) : SamplingMode :=
  match Text.lower s with
  | "error-only" => .errorOnly
  | "error_only" => .errorOnly
  | "sampled" => .sampled
  | _ => .all

end SamplingMode

/-- Whether events of the level always pass. -/
def Level.isImportant : Level → Bool
  | .warn => true
  | .error => true
  | _ => false

/-- What asks to be shown. Spans always pass. -/
inductive Signal where
  | span
  | event (level : Level)
  deriving DecidableEq

structure Sampler where
  mode : SamplingMode
  /-- The fraction to show, from zero to one or not a number. -/
  rate : Binary64
  /-- How many events have been counted. -/
  count : UInt64

namespace Sampler

def new (mode : SamplingMode) (rate : Binary64) : Sampler := ⟨mode, rate.clampUnit, 0⟩

/-- Of so many counted events one passes; none at all if it is zero. -/
def interval (rate : Binary64) : Nat := rate.inverse.floorUpTo Text.word64Max

/-- Whether the event that is counted as number `count` passes. -/
def isKept (interval count : Nat) : Bool := 0 < interval && count % interval == 0

/-- Whether a signal passes, and the sampler after it. -/
def offer (s : Sampler) : Signal → Bool × Sampler
  | .span => (true, s)
  | .event level =>
    match s.mode with
    | .all => (true, s)
    | .errorOnly => (level.isImportant, s)
    | .sampled =>
      if level.isImportant then (true, s)
      else if s.rate.le .zero then (false, s)
      else (isKept (interval s.rate) s.count.toNat, { s with count := s.count + 1 })

/-- Which of the signals pass, one after the other. -/
def offerAll : Sampler → List Signal → List Bool
  | _, [] => []
  | s, x :: xs => (s.offer x).1 :: offerAll (s.offer x).2 xs

end Sampler

end Waymark.Log
