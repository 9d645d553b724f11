/-!
# Punycode

A text as letters, digits and hyphens: its ASCII characters in order, and after
a hyphen the positions and values of the others, as differences in numbers of
variable length whose digits adapt to the sizes seen so far.
-/

namespace Waymark.Punycode

/-- The digit of a value below 36: letters, then decimal digits. -/
def digit (n : Nat) : Char :=
  if n < 26 then Char.ofNat ('a'.toNat + n) else Char.ofNat ('0'.toNat + n - 26)

def digitValue? (c : Char) : Option Nat :=
  if 'a' ≤ c && c ≤ 'z' then some (c.toNat - 'a'.toNat)
  else if 'A' ≤ c && c ≤ 'Z' then some (c.toNat - 'A'.toNat)
  else if '0' ≤ c && c ≤ '9' then some (c.toNat - '0'.toNat + 26)
  else none

/-- The value from which on a digit at place `k` is not the last of its number. -/
def threshold (bias k : Nat) : Nat := min 26 (max 1 (k - bias))

/-- How often a difference is divided before it is small, and what is left of it; `fuel` bounds
the divisions. -/
def divisions : (fuel : Nat) → Nat → Nat → Nat × Nat
  | 0, delta, k => (delta, k)
  | fuel + 1, delta, k => if 455 < delta then divisions fuel (delta / 35) (k + 36) else (delta, k)

/-- The bias after a difference, of which `count` characters are known. -/
def adapt (delta count : Nat) (first : Bool) : Nat :=
  let delta := if first then delta / 700 else delta / 2
  let (delta, k) := divisions (delta + 1) (delta + delta / count) 0
  k + 36 * delta / (delta + 38)

/-- A number of variable length; `fuel` bounds its digits. -/
def number : (fuel : Nat) → (bias k : Nat) → Nat → List Char
  | 0, _, _, _ => []
  | fuel + 1, bias, k, n =>
    let t := threshold bias k
    if n < t then [digit n]
    else digit (t + (n - t) % (36 - t)) :: number fuel bias (k + 36) ((n - t) / (36 - t))

structure State where
  delta : Nat
  bias : Nat
  known : Nat
  out : List Char

/-- Passes one character while the characters of code `code` are written. -/
def passChar (basics code : Nat) (s : State) (c : Char) : State :=
  if c.toNat < code then { s with delta := s.delta + 1 }
  else if c.toNat = code then
    { delta := 0, bias := adapt s.delta (s.known + 1) (s.known == basics), known := s.known + 1,
      out := s.out ++ number (s.delta + 1) s.bias 36 s.delta }
  else s

/-- Writes all characters of code `code`; `previous` is the first code not yet written. -/
def passCode (cs : List Char) (basics : Nat) (acc : State × Nat) (code : Nat) : State × Nat :=
  let (s, previous) := acc
  let s := { s with delta := s.delta + (code - previous) * (s.known + 1) }
  let s := cs.foldl (passChar basics code) s
  ({ s with delta := s.delta + 1 }, code + 1)

def isBasic (c : Char) : Bool := c.toNat < 0x80

def encode (cs : List Char) : List Char :=
  let basics := cs.filter isBasic
  let codes := (((cs.filter (!isBasic ·)).map Char.toNat).mergeSort).eraseDups
  let start : State := ⟨0, 72, basics.length, []⟩
  let (s, _) := codes.foldl (passCode cs basics.length) (start, 0x80)
  basics ++ (if basics.isEmpty then [] else ['-']) ++ s.out

/-- Reads a number of variable length below 2 ^ 32 and gives what follows it. -/
def readNumber? (bias : Nat) : (k weight acc : Nat) → List Char → Option (Nat × List Char)
  | _, _, _, [] => none
  | k, weight, acc, c :: cs => do
    let d ← digitValue? c
    let t := threshold bias k
    let acc := acc + d * weight
    if 0x100000000 ≤ acc then none
    if d < t then return (acc, cs) else readNumber? bias (k + 36) (weight * (36 - t)) acc cs

/-- Inserts the characters that the numbers describe; `fuel` bounds their count. -/
def insertAll? : (fuel : Nat) → (code place bias : Nat) → (out : List Char) → List Char →
    Option (List Char)
  | 0, _, _, _, _, _ => none
  | _, _, _, _, out, [] => some out
  | fuel + 1, code, place, bias, out, cs => do
    let (delta, rest) ← readNumber? bias 36 1 0 cs
    let count := out.length + 1
    let sum := place + delta
    let code := code + sum / count
    if !(code < 0xD800 || (0xE000 ≤ code && code < 0x110000)) then none
    let spot := sum % count
    insertAll? fuel code (spot + 1) (adapt delta count (place == 0))
      (out.take spot ++ Char.ofNat code :: out.drop spot) rest

/-- The text that an encoded text stands for. The last hyphen ends the ASCII characters, unless
there are none. -/
def decode? (cs : List Char) : Option (List Char) :=
  let (basics, rest) :=
    match cs.reverse.span (· != '-') with
    | (_, []) => ([], cs)
    | (_, [_]) => ([], cs)
    | (tail, _ :: front) => (front.reverse, tail.reverse)
  if basics.all isBasic then insertAll? (rest.length + 1) 0x80 0 72 basics rest else none

end Waymark.Punycode
