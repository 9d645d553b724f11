import Waymark.Unicode.CombiningClass
import Waymark.Unicode.Decomposition

/-!
# The composed normal form

Texts that look the same can be written in several ways. The normal form takes
every character apart, puts the marks in the order of their classes, and then
composes each character with the marks that follow it wherever no mark of the
same class or a higher one stands between them.
-/

namespace Waymark.Unicode

/-- What a character is the same as. -/
def decompose (c : Char) : List Char := (decomposed 3 c.toNat).map Char.ofNat

/-- A character in front of ordered ones, behind the marks of lower classes that follow it. -/
def settle (c : Char) : List Char → List Char
  | [] => [c]
  | d :: ds =>
    if 0 < combiningClass d && combiningClass d < combiningClass c then d :: settle c ds
    else c :: d :: ds

/-- The characters with each run of marks in the order of their classes. -/
def ordered : List Char → List Char
  | [] => []
  | c :: cs => settle c (ordered cs)

/-- Whether a character that follows some marks can be composed with the one before them. -/
def reaches (marks : List Char) (c : Char) : Bool :=
  marks.getLast?.all fun m => combiningClass m < combiningClass c

/-- Composes on from a character, with the marks behind it that were left alone. -/
def composeFrom (start : Char) (marks : List Char) : List Char → List Char
  | [] => start :: marks
  | c :: cs =>
    match if reaches marks c then composed? start.toNat c.toNat else none with
    | some n => composeFrom (Char.ofNat n) marks cs
    | none =>
      if combiningClass c = 0 then start :: marks ++ composeFrom c [] cs
      else composeFrom start (marks ++ [c]) cs

/-- Composes ordered characters; marks at the front have nothing to be composed with. -/
def compose : List Char → List Char
  | [] => []
  | c :: cs => if combiningClass c = 0 then composeFrom c [] cs else c :: compose cs

/-- The normal form of a text. Characters below U+00C0 are never changed by each other. -/
def normalize (cs : List Char) : List Char :=
  if cs.all (·.toNat < 0xC0) then cs else compose (ordered (cs.flatMap decompose))

end Waymark.Unicode
