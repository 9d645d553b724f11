import Waymark.Text.Ascii
import Waymark.Text.Utf8

/-!
# Percent encoding and form queries

A byte may be written as `%` and two hexadecimal digits. Decoding leaves a `%`
without two digits as it is. A form query is a list of name and value pairs
between `&`, each cut at its first `=`, with `+` for a space.
-/

namespace Waymark.Text.Percent

/-- The byte that two hexadecimal digits write. -/
def byteOf? (x y : UInt8) : Option UInt8 := do
  let high ← hexValue? (Char.ofNat x.toNat)
  let low ← hexValue? (Char.ofNat y.toNat)
  return UInt8.ofNat (high * 16 + low)

/-- The bytes with every complete `%XX` replaced by its byte. -/
def decode : List UInt8 → List UInt8
  | b :: x :: y :: rest =>
    if b == 0x25 then
      match byteOf? x y with
      | some v => v :: decode rest
      | none => b :: decode (x :: y :: rest)
    else b :: decode (x :: y :: rest)
  | rest => rest

/-- A byte as `%` and two capital hexadecimal digits. -/
def escape (b : UInt8) : List Char :=
  '%' :: (hexWide 2 b.toNat).map Char.toUpper

/-- The text with the bytes that `keep` refuses written as `%XX`; bytes above ASCII are
always written so. -/
def encode (keep : Char → Bool) (cs : List Char) : List Char :=
  cs.flatMap fun c =>
    if c.toNat < 0x80 && keep c then [c]
    else (String.utf8EncodeChar c).flatMap escape

end Waymark.Text.Percent

namespace Waymark.Text.Form

/-- The bytes of one name or value of a form query as text. -/
def decode (bytes : List UInt8) : String :=
  String.ofList (lenient (Percent.decode (bytes.map fun b => if b == 0x2B then 0x20 else b)))

/-- The bytes between the occurrences of `sep`. -/
def split (sep : UInt8) : List UInt8 → List (List UInt8)
  | [] => [[]]
  | b :: bs =>
    match split sep bs with
    | [] => [[b]]
    | p :: ps => if b == sep then [] :: p :: ps else (b :: p) :: ps

/-- One pair: the bytes before the first `=`, and those after it or nothing. -/
def pair (bytes : List UInt8) : String × String :=
  let name := bytes.takeWhile (· != 0x3D)
  let value := (bytes.dropWhile (· != 0x3D)).drop 1
  (decode name, decode value)

/-- The pairs of a form query in order; empty pieces between `&` carry none. -/
def pairs (query : String) : List (String × String) :=
  ((split 0x26 (utf8 query.toList)).filter (!·.isEmpty)).map pair

end Waymark.Text.Form
