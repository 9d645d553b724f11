import Waymark.Json.Basic
import Waymark.Text.Integer

/-!
# Numbers in JSON

A number has no superfluous zeros. A whole number is exact within 64 bits;
beyond them it is read as a fraction, and so is `-0`, which has no whole
counterpart. A fraction is read in steps of the 64-bit binary format: the
leading digits that fit 64 bits are rounded, and then multiplied or divided by
a power of ten, which rounds again. What is too large for the format after that
is no number, also where the decimal itself would still round to the largest
one.
-/

namespace Waymark.Json

/-! ## Parts of a number -/

/-- Whether a run of digits is a whole part: one digit, or more that do not start with zero. -/
def isWholePart : List Char → Bool
  | [] => false
  | [_] => true
  | c :: _ => c != '0'

/-- A fraction part: nothing, or a point and at least one digit. -/
def readFraction? : List Char → Option (List Char × List Char)
  | '.' :: rest =>
    let (ds, rest) := Decimal.spanDigits rest
    if ds.isEmpty then none else some (ds, rest)
  | rest => some ([], rest)

/-- The sign and the digits of an exponent, if there is one. -/
def readPower? : List Char → Option (Option Int × List Char)
  | c :: rest =>
    if c = 'e' ∨ c = 'E' then
      let (negative, digits) : Bool × List Char := match rest with
        | '-' :: more => (true, more)
        | '+' :: more => (false, more)
        | more => (false, more)
      let (ds, rest) := Decimal.spanDigits digits
      if ds.isEmpty then none
      else
        let n : Int := Decimal.digitsValue ds
        some (some (if negative then -n else n), rest)
    else some (none, c :: rest)
  | [] => some (none, [])

/-! ## Fractions -/

/-- The number of the leading digits that fit 64 bits behind `start`, and how many digits are
left. -/
def leadingDigits (start : Nat) : List Char → Nat × Nat
  | [] => (start, 0)
  | d :: ds =>
    let n := start * 10 + (d.toNat - '0'.toNat)
    if n ≤ Text.word64Max then leadingDigits n ds else (start, ds.length + 1)

/-- The magnitude nearest to a power of ten within the format. -/
def powerOfTen (n : Nat) : Magnitude := (Magnitude.round? (Nat.pow 10 n) 1).getD .zero

/-- The exponent of the largest power of ten in the format. -/
def maxPower : Nat := 308

/-- A magnitude times a power of ten; `none` when it is too large. -/
def scaleUp? (x : Magnitude) (n : Nat) : Option Magnitude :=
  if n ≤ maxPower then x.mul? (powerOfTen n) else if x.mant = 0 then some .zero else none

/-- A magnitude below `2^64` divided by a power of ten, in two steps if the power is beyond the
format; beyond two steps nothing is left. -/
def scaleDown? (x : Magnitude) (n : Nat) : Option Magnitude :=
  if n ≤ maxPower then x.div? (powerOfTen n)
  else if n ≤ 2 * maxPower then do
    (← x.div? (powerOfTen maxPower)).div? (powerOfTen (n - maxPower))
  else some .zero

/-- The fraction of digits before and after a point times a power of ten; `none` when it is
too large. A digit before the point that does not fit counts as a zero. -/
def fraction? (whole fraction : List Char) (power : Int) : Option Magnitude := do
  let (digits, more) := leadingDigits 0 whole
  let (digits, less) := leadingDigits digits fraction
  let exponent : Int := power + more - (fraction.length - less)
  let x ← Magnitude.round? digits 1
  if 0 ≤ exponent then scaleUp? x exponent.toNat else scaleDown? x (-exponent).toNat

/-! ## Values -/

/-- The value of a number's parts; `none` when it is too large for a fraction. -/
def numberValue? (negative : Bool) (whole fraction : List Char) (power : Option Int) :
    Option Json :=
  let asFraction : Option Json :=
    (fraction? whole fraction (power.getD 0)).map fun size => .float (.finite negative size)
  if !fraction.isEmpty || power.isSome then asFraction
  else
    let n := Decimal.digitsValue whole
    if negative then
      if 0 < n && Text.int64Min ≤ -Int.ofNat n then some (.int (-Int.ofNat n)) else asFraction
    else if n ≤ Text.word64Max then some (.int n) else asFraction

/-- A number and what follows it. -/
def readNumber? (cs : List Char) : Option (Json × List Char) := do
  let (negative, body) : Bool × List Char := match cs with
    | '-' :: rest => (true, rest)
    | _ => (false, cs)
  let (whole, rest) := Decimal.spanDigits body
  if !isWholePart whole then none
  let (fraction, rest) ← readFraction? rest
  let (power, rest) ← readPower? rest
  let value ← numberValue? negative whole fraction power
  return (value, rest)

end Waymark.Json
