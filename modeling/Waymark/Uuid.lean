import Waymark.Text.Ascii
import Waymark.Text.Cut

/-!
# Universally unique identifiers

A UUID is thirty-two hexadecimal digits. It is written in small letters in
five groups of 8, 4, 4, 4 and 12 digits with hyphens between them. Reading
also takes capitals, the digits without hyphens, and the hyphenated form in
braces or behind `urn:uuid:` in letters of either case.
-/

namespace Waymark

structure Uuid where
  digits : List (Fin 16)
  length_eq : digits.length = 32
  deriving DecidableEq

namespace Uuid

/-- The digits with nothing between them. -/
def plain (u : Uuid) : List Char := u.digits.map fun d => Text.hexDigit d.val

/-- The hyphenated form of a list of thirty-two characters. -/
def hyphenate (cs : List Char) : List Char :=
  cs.take 8 ++ '-' :: (cs.drop 8).take 4 ++ '-' :: (cs.drop 12).take 4 ++
    '-' :: (cs.drop 16).take 4 ++ '-' :: cs.drop 20

def chars (u : Uuid) : List Char := hyphenate u.plain

def text (u : Uuid) : String := String.ofList u.chars

/-- The value of a hexadecimal digit as a digit of a UUID. -/
def digit? (c : Char) : Option (Fin 16) :=
  (Text.hexValue? c).bind fun n => if h : n < 16 then some ⟨n, h⟩ else none

/-- Thirty-two hexadecimal digits and nothing else. -/
def ofPlain? (cs : List Char) : Option Uuid := do
  let ds ← cs.mapM digit?
  if h : ds.length = 32 then some ⟨ds, h⟩ else none

/-- The digits of a hyphenated form; the hyphens have to stand in their four places. -/
def ofHyphenated? (cs : List Char) : Option Uuid :=
  let plain := cs.take 8 ++ (cs.drop 9).take 4 ++ (cs.drop 14).take 4 ++
    (cs.drop 19).take 4 ++ cs.drop 24
  if hyphenate plain = cs then ofPlain? plain else none

/-- Any of the accepted forms. The form is told by the length. -/
def read? (s : String) : Option Uuid :=
  let cs := s.toList
  if cs.length = 32 then ofPlain? cs
  else if cs.length = 36 then ofHyphenated? cs
  else if cs.length = 38 then
    match cs with
    | '\x7b' :: rest =>
      if rest.getLast? = some '\x7d' then ofHyphenated? rest.dropLast else none
    | _ => none
  else if cs.length = 45 then
    if (cs.take 9).map Char.toLower = "urn:uuid:".toList then ofHyphenated? (cs.drop 9) else none
  else none

end Uuid

end Waymark
