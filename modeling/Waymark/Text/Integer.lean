import Waymark.Text.Ascii

/-!
# Reading whole numbers

A whole number is a run of digits, at least one. A sign may stand in front: `+`
always, `-` only where negative numbers are in the range. Digits are those of
the radix and nothing else, so `1_000` and ` 5` are not numbers.
-/

namespace Waymark.Text

/-- The value of a digit of the given radix. -/
def digitValue? (radix : Nat) (c : Char) : Option Nat :=
  (hexValue? c).filter (· < radix)

/-- The value of a run of digits read onto `acc`; `none` at the first character that is
no digit of the radix. -/
def readDigits? (radix : Nat) (acc : Nat) : List Char → Option Nat
  | [] => some acc
  | c :: cs => do readDigits? radix (acc * radix + (← digitValue? radix c)) cs

/-- A run of at least one digit. -/
def readDigitRun? (radix : Nat) : List Char → Option Nat
  | [] => none
  | cs => readDigits? radix 0 cs

/-- An unsigned number not above `top`, with an optional `+`. -/
def readUnsigned? (radix top : Nat) (cs : List Char) : Option Nat :=
  let digits := match cs with
    | '+' :: rest => rest
    | _ => cs
  (readDigitRun? radix digits).filter (· ≤ top)

/-- A decimal number between `low` and `high`, with an optional sign. -/
def readSigned? (low high : Int) (cs : List Char) : Option Int :=
  let value : Option Int := match cs with
    | '+' :: rest => (readDigitRun? 10 rest).map Int.ofNat
    | '-' :: rest => (readDigitRun? 10 rest).map fun n => -Int.ofNat n
    | _ => (readDigitRun? 10 cs).map Int.ofNat
  value.filter fun n => low ≤ n && n ≤ high

/-- The bounds of a 64-bit signed number. -/
def int64Min : Int := -9223372036854775808

def int64Max : Int := 9223372036854775807

/-- The largest 64-bit unsigned number. -/
def word64Max : Nat := 18446744073709551615

/-- A decimal number that fits 64 bits with sign. -/
def readInt64? (s : String) : Option Int := readSigned? int64Min int64Max s.toList

end Waymark.Text
