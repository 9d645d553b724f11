/-!
# Binary floating-point numbers

A number of the 64-bit binary format, by what it stands for: a not-a-number,
an infinity, or a signed multiple `mant * 2^shift` of the least positive
magnitude `2^-1074`. The multiple is kept in the one form in which the format
writes it, so two finite numbers are the same exactly when their parts are.

All arithmetic is exact on natural numbers; `Magnitude.round?` is the only
place where a value is rounded, to the nearest number and at a tie to the one
with the even mantissa.
-/

namespace Waymark

/-- The absolute value `mant * 2^shift / 2^1074` of a finite number. A mantissa has at most 53
bits, and exactly 53 unless the shift is zero. -/
structure Magnitude where
  mant : Nat
  shift : Nat
  mant_lt : mant < Nat.pow 2 53
  normal : shift = 0 ∨ Nat.pow 2 52 ≤ mant
  shift_le : shift ≤ 2045
  deriving DecidableEq

inductive Binary64 where
  | nan
  | infinity (negative : Bool)
  | finite (negative : Bool) (size : Magnitude)
  deriving DecidableEq

namespace Magnitude

def zero : Magnitude := ⟨0, 0, by decide, by decide, by decide⟩

instance : Inhabited Magnitude := ⟨zero⟩

/-- How many times `2^-1074` goes into one. -/
def unitsOfOne : Nat := Nat.pow 2 1074

/-- The multiple of `2^-1074` that the magnitude is. -/
def units (x : Magnitude) : Nat := x.mant * Nat.pow 2 x.shift

/-- A mantissa and a shift put into the form of the format: `2^53` carries into the shift, and
a shift beyond the format has no magnitude. -/
def pack? (mant shift : Nat) : Option Magnitude :=
  if h : mant < Nat.pow 2 53 ∧ (shift = 0 ∨ Nat.pow 2 52 ≤ mant) ∧ shift ≤ 2045 then
    some ⟨mant, shift, h.1, h.2.1, h.2.2⟩
  else if h : mant = Nat.pow 2 53 ∧ shift + 1 ≤ 2045 then
    some ⟨Nat.pow 2 52, shift + 1, by decide, by simp, h.2⟩
  else none

/-- The quotient of `num` by `den`, rounded to the nearest whole number, a tie to the even
neighbour. -/
def divNearest (num den : Nat) : Nat :=
  let q := num / den
  let r := num % den
  if 2 * r < den then q
  else if den < 2 * r then q + 1
  else if q % 2 = 0 then q else q + 1

/-- The shift at which `units` multiples of `2^-1074` have a mantissa of at most 53 bits. -/
def shiftFor (units : Nat) : Nat :=
  if units < Nat.pow 2 53 then 0 else Nat.log2 units - 52

/-- The magnitude nearest to `num / den`; `none` when it is too large for the format. -/
def round? (num den : Nat) : Option Magnitude :=
  let scaled := num * unitsOfOne
  let shift := shiftFor (scaled / den)
  pack? (divNearest scaled (den * Nat.pow 2 shift)) shift

/-- The magnitude nearest to the product; `none` when it is too large for the format. -/
def mul? (x y : Magnitude) : Option Magnitude :=
  round? (x.units * y.units) (unitsOfOne * unitsOfOne)

/-- The magnitude nearest to the quotient by one that is not zero. -/
def div? (x y : Magnitude) : Option Magnitude := round? x.units y.units

end Magnitude

namespace Binary64

/-- The number of the given sign nearest to `num / den`. -/
def ofRatio (negative : Bool) (num den : Nat) : Binary64 :=
  match Magnitude.round? num den with
  | some size => .finite negative size
  | none => .infinity negative

def ofInt (n : Int) : Binary64 := ofRatio (n < 0) n.natAbs 1

def zero : Binary64 := .finite false .zero

instance : Inhabited Binary64 := ⟨zero⟩

def isFinite : Binary64 → Bool
  | .finite .. => true
  | _ => false

/-- Below zero; a zero with a minus sign is not. -/
def isNegative : Binary64 → Bool
  | .nan => false
  | .infinity negative => negative
  | .finite negative size => negative && size.mant != 0

/-- A zero of either sign. -/
def isZero : Binary64 → Bool
  | .finite _ size => size.mant == 0
  | _ => false

/-- Equality as numbers: a not-a-number equals nothing, and the two zeros are equal. -/
def same : Binary64 → Binary64 → Bool
  | .nan, _ => false
  | _, .nan => false
  | x, y => (x.isZero && y.isZero) || x == y

/-- The order of numbers; a not-a-number is not below anything. -/
def le : Binary64 → Binary64 → Bool
  | .nan, _ => false
  | _, .nan => false
  | .infinity s, .infinity t => s || !t
  | .infinity s, .finite .. => s
  | .finite .., .infinity t => !t
  | .finite s a, .finite t b =>
    match s, t with
    | false, false => a.units ≤ b.units
    | true, true => b.units ≤ a.units
    | true, false => true
    | false, true => a.units == 0 && b.units == 0

end Binary64

end Waymark
