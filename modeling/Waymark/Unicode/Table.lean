import Waymark.Text.Cut
import Waymark.Text.Integer

/-!
# Character tables

The tables of the Unicode standard, in its version 17, are written as rows of
entries with blanks between them, in hexadecimal. In a set, an entry is a code
point or a range `first-last`. In a mapping, `first-last/step>target` takes the
code points from `first` on, `step` apart, to the target and as far behind it
as they are behind `first`; the step is one and the range a single code point
if they are left out. A single code point can be taken to several, between
points.
-/

namespace Waymark.Unicode

/-- A set of code points, as ranges that include their ends. -/
abbrev Ranges := Array (Nat × Nat)

def Ranges.has (ranges : Ranges) (c : Char) : Bool :=
  ranges.any fun (first, last) => first ≤ c.toNat && c.toNat ≤ last

/-- Code points that are mapped alike. -/
structure Run where
  first : Nat
  last : Nat
  step : Nat
  target : List Nat

namespace Run

/-- Whether the run maps a code point. -/
def has (r : Run) (n : Nat) : Bool :=
  r.first ≤ n && n ≤ r.last && (n - r.first) % r.step == 0

/-- What a code point of the run is mapped to. -/
def image (r : Run) (n : Nat) : List Nat :=
  match r.target with
  | [t] => [t + (n - r.first)]
  | ts => ts

end Run

/-! ## Reading tables -/

def readCode (cs : List Char) : Nat := (Text.readDigitRun? 16 cs).getD 0

def readRange (cs : List Char) : Nat × Nat :=
  match Text.cutAt? '-' cs with
  | some (first, last) => (readCode first, readCode last)
  | none => (readCode cs, readCode cs)

def readRun (cs : List Char) : Run :=
  let (source, target) := (Text.cutAt? '>' cs).getD (cs, [])
  let (range, step) := (Text.cutAt? '/' source).getD (source, ['1'])
  let (first, last) := readRange range
  ⟨first, last, readCode step, (Text.pieces '.' target).map readCode⟩

def entries (rows : List String) : List (List Char) :=
  rows.flatMap fun row => Text.pieces ' ' row.toList

def readRanges (rows : List String) : Ranges := ((entries rows).map readRange).toArray

def readRuns (rows : List String) : Array Run := ((entries rows).map readRun).toArray

end Waymark.Unicode
