import Waymark.Text.Ascii
import Waymark.Text.Blank
import Waymark.Text.Utf8

/-!
# Request identifiers

A request identifier is a number of 128 bits, written as 26 digits of base 32
from an alphabet without `I`, `L`, `O` and `U`, so that identifiers sort as
their numbers do. Small letters are read like capitals. The 26 digits carry
130 bits, of which the two highest are dropped.
-/

namespace Waymark

structure RequestId where
  value : Fin (Nat.pow 2 128)
  deriving DecidableEq

namespace RequestId

/-- The identifier zero, which a scope has before one is given to it. -/
def nil : RequestId := ⟨0⟩

instance : Inhabited RequestId := ⟨nil⟩

/-- What a text that is no identifier lacks. -/
inductive ReadError where
  | length
  | character
  deriving DecidableEq

def ReadError.message : ReadError → String
  | .length => "invalid length"
  | .character => "invalid character"

/-- The digits of base 32 in their order. -/
def alphabet : List Char := "0123456789ABCDEFGHJKMNPQRSTVWXYZ".toList

def digit (n : Nat) : Char := alphabet.getD (n % 32) '0'

/-- The value of a digit of either case. -/
def digitValue? (c : Char) : Option Nat := alphabet.idxOf? c.toUpper

/-- The digits of a number, `count` of them. -/
def digits : (count : Nat) → Nat → List Char
  | 0, _ => []
  | count + 1, n => digits count (n / 32) ++ [digit n]

def text (id : RequestId) : String := String.ofList (digits 26 id.value)

/-- The number that the digits write. -/
def readDigits? (acc : Nat) : List Char → Option Nat
  | [] => some acc
  | c :: cs => do readDigits? (acc * 32 + (← digitValue? c)) cs

/-- Reads an identifier; its length is counted in bytes, so that a text with characters
beyond ASCII may have the right length and fail for its characters. -/
def read (s : String) : Except ReadError RequestId :=
  if Text.utf8Length s.toList ≠ 26 then .error .length
  else match readDigits? 0 s.toList with
    | some n => .ok ⟨Fin.ofNat _ n⟩
    | none => .error .character

/-- The identifier that a header offers: blanks around it are ignored, and anything else than
an identifier offers none. -/
def ofHeader? (s : String) : Option RequestId := (read (Text.trim s)).toOption

end RequestId

end Waymark
