import Waymark.Json.Number

/-!
# Reading JSON

The reader takes the grammar strictly: blanks are the four of the standard,
controls do not stand in strings, escapes of surrogates come in pairs, and
arrays and objects nest at most 127 deep.
-/

namespace Waymark.Json

def isSpace (c : Char) : Bool := c == ' ' || c == '\t' || c == '\n' || c == '\r'

def skipSpace (cs : List Char) : List Char := cs.dropWhile isSpace

/-! ## Strings -/

/-- The code unit that four hexadecimal digits write. -/
def unit? (a b c d : Char) : Option Nat := do
  let a ← Text.hexValue? a
  let b ← Text.hexValue? b
  let c ← Text.hexValue? c
  let d ← Text.hexValue? d
  return ((a * 16 + b) * 16 + c) * 16 + d

def isHighSurrogate (u : Nat) : Bool := 0xD800 ≤ u && u < 0xDC00

def isLowSurrogate (u : Nat) : Bool := 0xDC00 ≤ u && u < 0xE000

/-- The character of an escape letter. -/
def escapeLetter? : Char → Option Char
  | '"' => some '"'
  | '\\' => some '\\'
  | '/' => some '/'
  | 'b' => some '\x08'
  | 'f' => some '\x0c'
  | 'n' => some '\n'
  | 'r' => some '\r'
  | 't' => some '\t'
  | _ => none

/-- The characters up to the closing quote and what follows it. -/
def readChars? : List Char → Option (List Char × List Char)
  | [] => none
  | '"' :: rest => some ([], rest)
  | '\\' :: 'u' :: a :: b :: c :: d :: '\\' :: 'u' :: e :: f :: g :: h :: rest => do
    let u ← unit? a b c d
    if isHighSurrogate u then
      let v ← unit? e f g h
      if isLowSurrogate v then
        let (cs, rest) ← readChars? rest
        return (Char.ofNat (0x10000 + (u - 0xD800) * 0x400 + (v - 0xDC00)) :: cs, rest)
      else none
    else if isLowSurrogate u then none
    else
      let (cs, rest) ← readChars? ('\\' :: 'u' :: e :: f :: g :: h :: rest)
      return (Char.ofNat u :: cs, rest)
  | '\\' :: 'u' :: a :: b :: c :: d :: rest => do
    let u ← unit? a b c d
    if isHighSurrogate u || isLowSurrogate u then none
    else
      let (cs, rest) ← readChars? rest
      return (Char.ofNat u :: cs, rest)
  | '\\' :: l :: rest => do
    let ch ← escapeLetter? l
    let (cs, rest) ← readChars? rest
    return (ch :: cs, rest)
  | ch :: rest =>
    if ch = '\\' ∨ ch.toNat < 0x20 then none
    else do
      let (cs, rest) ← readChars? rest
      return (ch :: cs, rest)

/-! ## Values -/

/-- Reads a fixed word. -/
def readWord? (word : String) (value : Json) (cs : List Char) : Option (Json × List Char) :=
  (Text.after? word.toList cs).map fun rest => (value, rest)

mutual

/-- A value at the front of the text and what follows it. `fuel` bounds the steps and `depth`
the nesting. -/
def readValue? : (fuel depth : Nat) → List Char → Option (Json × List Char)
  | 0, _, _ => none
  | fuel + 1, depth, cs =>
    match cs with
    | '"' :: rest => (readChars? rest).map fun (s, rest) => (.str (String.ofList s), rest)
    | '[' :: rest =>
      if depth = 0 then none
      else match skipSpace rest with
        | ']' :: rest => some (.arr [], rest)
        | rest => (readItems? fuel (depth - 1) rest).map fun (js, rest) => (.arr js, rest)
    | '\x7b' :: rest =>
      if depth = 0 then none
      else match skipSpace rest with
        | '\x7d' :: rest => some (.obj [], rest)
        | rest => (readMembers? fuel (depth - 1) rest).map fun (ms, rest) => (.obj ms, rest)
    | 'n' :: _ => readWord? "null" .null cs
    | 't' :: _ => readWord? "true" (.bool true) cs
    | 'f' :: _ => readWord? "false" (.bool false) cs
    | _ => readNumber? cs

/-- Items up to the closing bracket. -/
def readItems? : (fuel depth : Nat) → List Char → Option (List Json × List Char)
  | 0, _, _ => none
  | fuel + 1, depth, cs => do
    let (j, rest) ← readValue? fuel depth (skipSpace cs)
    match skipSpace rest with
    | ',' :: rest =>
      let (js, rest) ← readItems? fuel depth rest
      return (j :: js, rest)
    | ']' :: rest => return ([j], rest)
    | _ => none

/-- Members up to the closing brace. -/
def readMembers? : (fuel depth : Nat) → List Char → Option (List (String × Json) × List Char)
  | 0, _, _ => none
  | fuel + 1, depth, cs =>
    match skipSpace cs with
    | '"' :: rest => do
      let (name, rest) ← readChars? rest
      match skipSpace rest with
      | ':' :: rest =>
        let (j, rest) ← readValue? fuel depth (skipSpace rest)
        match skipSpace rest with
        | ',' :: rest =>
          let (ms, rest) ← readMembers? fuel depth rest
          return ((String.ofList name, j) :: ms, rest)
        | '\x7d' :: rest => return ([(String.ofList name, j)], rest)
        | _ => none
      | _ => none
    | _ => none

end

/-- The value that the whole text writes. -/
def read? (text : String) : Option Json := do
  let cs := skipSpace text.toList
  let (j, rest) ← readValue? (2 * cs.length + 2) 127 cs
  if (skipSpace rest).isEmpty then return j else none

end Waymark.Json
