/-!
# UTF-8

The bytes of a text, its length in bytes, and the text of arbitrary bytes.
Bytes that are not UTF-8 are read leniently: each longest run that could still
have become a character, and each byte that can start none, is read as the
replacement character.
-/

namespace Waymark.Text

/-- The bytes of a text. -/
def utf8 (cs : List Char) : List UInt8 := cs.flatMap String.utf8EncodeChar

/-- The number of bytes of a text. -/
def utf8Length : List Char → Nat
  | [] => 0
  | c :: cs => c.utf8Size + utf8Length cs

/-- The text before and after its byte number `n`; `none` if that byte is inside of a character
or beyond the end. -/
def cutBytes? : (n : Nat) → List Char → Option (List Char × List Char)
  | 0, cs => some ([], cs)
  | _ + 1, [] => none
  | n + 1, c :: cs =>
    if n + 1 < c.utf8Size then none
    else (cutBytes? (n + 1 - c.utf8Size) cs).map fun (before, after) => (c :: before, after)

/-! ## Lenient reading -/

namespace Lenient

/-- What a byte can do as the first of a longer character: how many bytes follow it, and the
range of the one after it. -/
structure Lead where
  tail : Nat
  low : UInt8
  high : UInt8

/-- The reading of a byte as a lead; `none` for a byte that starts no longer character. -/
def lead? (b : UInt8) : Option Lead :=
  if 0xC2 ≤ b && b ≤ 0xDF then some ⟨1, 0x80, 0xBF⟩
  else if b == 0xE0 then some ⟨2, 0xA0, 0xBF⟩
  else if 0xE1 ≤ b && b ≤ 0xEC then some ⟨2, 0x80, 0xBF⟩
  else if b == 0xED then some ⟨2, 0x80, 0x9F⟩
  else if b == 0xEE || b == 0xEF then some ⟨2, 0x80, 0xBF⟩
  else if b == 0xF0 then some ⟨3, 0x90, 0xBF⟩
  else if 0xF1 ≤ b && b ≤ 0xF3 then some ⟨3, 0x80, 0xBF⟩
  else if b == 0xF4 then some ⟨3, 0x80, 0x8F⟩
  else none

/-- The bits that a lead byte contributes to its character. -/
def leadBits (tail : Nat) (b : UInt8) : Nat :=
  if tail = 1 then b.toNat % 32 else if tail = 2 then b.toNat % 16 else b.toNat % 8

/-- What is owed between two bytes: nothing, or `owed` more bytes of a character whose bits so
far are `bits`, the next byte between `low` and `high`. -/
inductive Pending where
  | nothing
  | bytes (owed bits : Nat) (low high : UInt8)

def replacement : Char := Char.ofNat 0xFFFD

/-- Reads a byte where a character may start. -/
def start (b : UInt8) : List Char × Pending :=
  if b < 0x80 then ([Char.ofNat b.toNat], .nothing)
  else match lead? b with
    | some l => ([], .bytes l.tail (leadBits l.tail b) l.low l.high)
    | none => ([replacement], .nothing)

/-- Reads a byte; one that cannot go on with the pending character replaces it and starts
afresh. -/
def step : Pending → UInt8 → List Char × Pending
  | .nothing, b => start b
  | .bytes owed bits low high, b =>
    if low ≤ b && b ≤ high then
      let bits := bits * 64 + b.toNat % 64
      if owed = 1 then ([Char.ofNat bits], .nothing)
      else ([], .bytes (owed - 1) bits 0x80 0xBF)
    else
      let (out, next) := start b
      (replacement :: out, next)

def readFrom : Pending → List UInt8 → List Char
  | .nothing, [] => []
  | .bytes .., [] => [replacement]
  | p, b :: bs =>
    let (out, next) := step p b
    out ++ readFrom next bs

end Lenient

/-- The text of the bytes, with the replacement character where they are not UTF-8. -/
def lenient (bytes : List UInt8) : List Char := Lenient.readFrom .nothing bytes

end Waymark.Text
