import Waymark.Number.Binary64
import Waymark.Text.Integer

/-!
# Decimal texts of binary numbers

A decimal is a whole number of digits times a power of ten. Reading rounds it
to the nearest binary number. Writing finds the decimal with the fewest digits
that reads back to the same binary number, and among those the nearest.
-/

namespace Waymark

/-- The number `digits * 10^exponent`. -/
structure Decimal where
  digits : Nat
  exponent : Int
  deriving DecidableEq

namespace Decimal

/-- The decimal as a ratio. -/
def ratio (d : Decimal) : Nat × Nat :=
  if 0 ≤ d.exponent then (d.digits * Nat.pow 10 d.exponent.toNat, 1)
  else (d.digits, Nat.pow 10 (-d.exponent).toNat)

/-- The power of ten just above the decimal, by its digit count. -/
def order (d : Decimal) : Int := d.exponent + (Nat.toDigits 10 d.digits).length

/-- The binary magnitude nearest to the decimal; `none` when it is too large. The order of
the decimal settles the far ends of the range, so that no power of ten beyond it is ever
computed. -/
def toMagnitude? (d : Decimal) : Option Magnitude :=
  if d.digits = 0 ∨ d.order < -400 then some .zero
  else if 400 < d.order then none
  else Magnitude.round? d.ratio.1 d.ratio.2

/-! ## Reading -/

/-- The digits at the front of a text, as characters, and what follows them. -/
def spanDigits (cs : List Char) : List Char × List Char :=
  (cs.takeWhile Text.isDigit, cs.dropWhile Text.isDigit)

/-- The value of a list of digit characters. -/
def digitsValue (cs : List Char) : Nat := Nat.ofDigitChars 10 cs 0

/-- The exponent part of a decimal text: nothing, or a letter `e`, a sign if any, and digits. -/
def readExponent? : List Char → Option Int
  | [] => some 0
  | c :: rest =>
    if c = 'e' ∨ c = 'E' then
      match rest with
      | '-' :: ds => (Text.readDigitRun? 10 ds).map fun n => -Int.ofNat n
      | '+' :: ds => (Text.readDigitRun? 10 ds).map Int.ofNat
      | ds => (Text.readDigitRun? 10 ds).map Int.ofNat
    else none

/-- The digits after a point, if there is one, and what follows them. -/
def spanFraction : List Char → List Char × List Char
  | '.' :: rest => spanDigits rest
  | rest => ([], rest)

/-- A decimal text without sign: digits, at least one before or after an optional point, and
an optional exponent. -/
def read? (cs : List Char) : Option Decimal := do
  let (whole, rest) := spanDigits cs
  let (fraction, rest) := spanFraction rest
  if whole.isEmpty && fraction.isEmpty then none
  let e ← readExponent? rest
  return ⟨digitsValue (whole ++ fraction), e - fraction.length⟩

/-! ## The shortest decimal -/

/-- Removes the zeros at the end of the digits, `fuel` of them at most. -/
def stripZeros : Nat → Decimal → Decimal
  | 0, d => d
  | fuel + 1, d =>
    if d.digits ≠ 0 ∧ d.digits % 10 = 0 then stripZeros fuel ⟨d.digits / 10, d.exponent + 1⟩
    else d

/-- The least `k` with `num * 10^k ≥ den`, for a ratio below one; `fuel` bounds the search. -/
def leadingZeros (num den : Nat) : Nat → Nat
  | 0 => 0
  | fuel + 1 => if den ≤ num then 0 else leadingZeros (num * 10) den fuel + 1

/-- The number of digits before the point of `num / den`, or minus the number of zeros that
follow the point. -/
def wholeDigits (num den : Nat) : Int :=
  if den ≤ num then (Nat.toDigits 10 (num / den)).length
  else 1 - (leadingZeros num den 400 : Int)

/-- Whether a decimal reads back to the magnitude. -/
def readsAs (x : Magnitude) (d : Decimal) : Bool := d.toMagnitude? == some x

/-- The neighbours of `num / den` among the multiples of `10^exponent`. -/
def neighbours (num den : Nat) (exponent : Int) : Decimal × Decimal :=
  let low := if 0 ≤ exponent then num / (den * Nat.pow 10 exponent.toNat)
    else num * Nat.pow 10 (-exponent).toNat / den
  (⟨low, exponent⟩, ⟨low + 1, exponent⟩)

/-- Whether `num / den` is nearer to the lower of its two neighbours. -/
def lowerIsNearer (num den : Nat) (low : Decimal) : Bool :=
  -- twice the ratio against the sum of the neighbours
  let (a, b) := Decimal.ratio ⟨2 * low.digits + 1, low.exponent⟩
  2 * num * b < a * den

/-- The decimal of `n` digits that reads back to the magnitude, the nearest one if there are
two. -/
def withDigits? (x : Magnitude) (n : Nat) : Option Decimal :=
  let num := x.units
  let den := Magnitude.unitsOfOne
  let (low, high) := neighbours num den (wholeDigits num den - n)
  match readsAs x low, readsAs x high with
  | true, true => some (if lowerIsNearer num den low then low else high)
  | true, false => some low
  | false, true => some high
  | false, false => none

/-- The magnitude in full: `2^-1074` has 1074 places after the point. -/
def exact (x : Magnitude) : Decimal := ⟨x.units * Nat.pow 5 1074, -1074⟩

/-- The decimal with the fewest digits that reads back to the magnitude. -/
def shortest (x : Magnitude) : Decimal :=
  if x.mant = 0 then ⟨0, 0⟩
  else stripZeros 1100 (((List.range 17).findSome? fun n => withDigits? x (n + 1)).getD (exact x))

/-! ## Written forms -/

/-- Without exponent: as many zeros as the power of ten asks for, and a point only where
digits follow it. -/
def positional (d : Decimal) : List Char :=
  let ds := Nat.toDigits 10 d.digits
  if 0 ≤ d.exponent then
    if d.digits = 0 then ds else ds ++ List.replicate d.exponent.toNat '0'
  else
    let places := (-d.exponent).toNat
    let filled := List.replicate (places + 1 - ds.length) '0' ++ ds
    filled.take (filled.length - places) ++ '.' :: filled.drop (filled.length - places)

/-- With one digit before the point and an exponent that has a sign always. -/
def scientific (d : Decimal) : List Char :=
  let ds := Nat.toDigits 10 d.digits
  let e := d.order - 1
  let mantissa := match ds with
    | [] => []
    | [c] => [c]
    | c :: more => c :: '.' :: more
  mantissa ++ 'e' :: (if e < 0 then '-' else '+') :: Nat.toDigits 10 e.natAbs

end Decimal

namespace Binary64

/-- A number text: a sign if any, then `inf`, `infinity` or `nan` in letters of either case,
or a decimal. -/
def read? (s : String) : Option Binary64 :=
  let (negative, body) : Bool × List Char := match s.toList with
    | '-' :: rest => (true, rest)
    | '+' :: rest => (false, rest)
    | cs => (false, cs)
  let word := body.map Char.toLower
  if word = "inf".toList ∨ word = "infinity".toList then some (.infinity negative)
  else if word = "nan".toList then some .nan
  else (Decimal.read? body).map fun d =>
    match d.toMagnitude? with
    | some size => .finite negative size
    | none => .infinity negative

/-- The shortest text without exponent that reads back to the number. -/
def text : Binary64 → String
  | .nan => "NaN"
  | .infinity negative => if negative then "-inf" else "inf"
  | .finite negative size =>
    String.ofList ((if negative then ['-'] else []) ++ (Decimal.shortest size).positional)

/-- The number in diagnostics: a point is always shown, and an exponent where the number is
very large or very small. -/
def outline : Binary64 → String
  | .nan => "NaN"
  | .infinity negative => if negative then "-inf" else "inf"
  | .finite negative size =>
    let d := Decimal.shortest size
    let sign := if negative then ['-'] else []
    String.ofList (sign ++
      if d.digits = 0 then ['0', '.', '0']
      else if -3 ≤ d.order ∧ d.order ≤ 16 then
        if 0 ≤ d.exponent then d.positional ++ ['.', '0'] else d.positional
      else d.scientific.filter (· != '+'))

/-- The whole part of a number from zero up, not above `top`; zero for a not-a-number and for
numbers below zero. -/
def floorUpTo (top : Nat) : Binary64 → Nat
  | .nan => 0
  | .infinity negative => if negative then 0 else top
  | .finite negative size => if negative then 0 else min top (size.units / Magnitude.unitsOfOne)

/-- One divided by the number. -/
def inverse : Binary64 → Binary64
  | .nan => .nan
  | .infinity negative => .finite negative .zero
  | .finite negative size =>
    if size.mant = 0 then .infinity negative else ofRatio negative Magnitude.unitsOfOne size.units

/-- The number moved into the range from zero to one; a not-a-number stays. -/
def clampUnit (x : Binary64) : Binary64 :=
  let one := ofInt 1
  match x with
  | .nan => .nan
  | _ => if !le zero x then zero else if !le x one then one else x

end Binary64

end Waymark
