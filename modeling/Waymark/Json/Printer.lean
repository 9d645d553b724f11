import Waymark.Json.Basic
import Waymark.Text.Ascii

/-!
# Written JSON

The compact text of a value: no blanks, members in their order. Inside a
string only quotes, backslashes and the controls are escaped. A fraction is
written with its shortest digits, without exponent where the point falls
within sixteen digits or up to four zeros after it, and otherwise with one;
what is not a finite number is written `null`.
-/

namespace Waymark.Json

/-- The written form of one character inside a string. -/
def escapedChar (c : Char) : List Char :=
  if c = '"' then ['\\', '"']
  else if c = '\\' then ['\\', '\\']
  else if c = '\x08' then ['\\', 'b']
  else if c = '\t' then ['\\', 't']
  else if c = '\n' then ['\\', 'n']
  else if c = '\x0c' then ['\\', 'f']
  else if c = '\r' then ['\\', 'r']
  else if c.toNat < 0x20 then ['\\', 'u'] ++ Text.hexWide 4 c.toNat
  else [c]

def renderString (s : String) : List Char :=
  '"' :: s.toList.flatMap escapedChar ++ ['"']

/-- A whole number: its digits after a sign if it is below zero. -/
def renderInt (n : Int) : List Char :=
  (if n < 0 then ['-'] else []) ++ Nat.toDigits 10 n.natAbs

/-- A finite magnitude with its shortest digits; a point is always shown without exponent. -/
def renderMagnitude (x : Magnitude) : List Char :=
  let d := Decimal.shortest x
  if d.digits = 0 then ['0', '.', '0']
  else if -5 < d.order ∧ d.order ≤ 16 then
    if 0 ≤ d.exponent then d.positional ++ ['.', '0'] else d.positional
  else d.scientific

def renderFloat : Binary64 → List Char
  | .finite negative size => (if negative then ['-'] else []) ++ renderMagnitude size
  | _ => "null".toList

mutual

/-- The compact text of a value. -/
def render : Json → List Char
  | .null => "null".toList
  | .bool b => (if b then "true" else "false").toList
  | .int n => renderInt n
  | .float x => renderFloat x
  | .str s => renderString s
  | .arr [] => ['[', ']']
  | .arr (j :: js) => '[' :: render j ++ renderItems js
  | .obj [] => ['\x7b', '\x7d']
  | .obj ((name, j) :: ms) => '\x7b' :: renderString name ++ ':' :: render j ++ renderMembers ms

/-- The items after the first, each behind a comma, and the closing bracket. -/
def renderItems : List Json → List Char
  | [] => [']']
  | j :: js => ',' :: render j ++ renderItems js

/-- The members after the first, each behind a comma, and the closing brace. -/
def renderMembers : List (String × Json) → List Char
  | [] => ['\x7d']
  | (name, j) :: ms => ',' :: renderString name ++ ':' :: render j ++ renderMembers ms

end

/-- The compact text of a value as a string. -/
def text (j : Json) : String := String.ofList j.render

end Waymark.Json
