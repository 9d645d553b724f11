import Waymark.Text.Utf8
import Waymark.Yaml.Scalar
import Waymark.Yaml.Token

/-!
# Anchors, tags and directives

The properties of a node stand in front of it: a name that aliases refer to,
and a tag. A tag is written in full between angles, or as a handle and a
suffix; directives at the head of a document say what handles stand for.
-/

namespace Waymark.Yaml

/-- The longest run of word glyphs and what follows it. -/
def spanWord (gs : List Glyph) : List Char × List Glyph :=
  ((gs.takeWhile Glyph.isWord).map Glyph.char, gs.dropWhile Glyph.isWord)

/-- The name of an anchor or an alias after its indicator. -/
def anchorName? (gs : List Glyph) : Option (String × List Glyph) :=
  let (name, rest) := spanWord gs
  if name.isEmpty || !(atSpace rest || startsWithOneOf "?:,]\x7d%@\x60" rest) then none
  else some (String.ofList name, rest)

/-! ## Tags -/

/-- The glyphs of a tag; a tag in angles may also hold the marks of flow collections. -/
def isTagGlyph (inAngles : Bool) (g : Glyph) : Bool :=
  g.isWord || g.isOneOf ";/?:@&=+$.%!~*'()" || (inAngles && g.isOneOf ",[]")

/-- The number of bytes in a character that starts with a byte. -/
def octets? (lead : Nat) : Option Nat :=
  if lead < 0x80 then some 1
  else if 0xC0 ≤ lead && lead < 0xE0 then some 2
  else if 0xE0 ≤ lead && lead < 0xF0 then some 3
  else if 0xF0 ≤ lead && lead < 0xF8 then some 4
  else none

/-- The bytes that a run of tag characters writes. An escape is two hexadecimal digits for a
byte, and the bytes of one character are escaped in a row; `owed` of them are still to come. -/
def tagBytes? : (owed : Nat) → List Char → Option (List UInt8)
  | owed, [] => if owed = 0 then some [] else none
  | owed, '%' :: a :: b :: cs => do
    let byte := (← Text.hexValue? a) * 16 + (← Text.hexValue? b)
    let owed ← if owed = 0 then (octets? byte).map (· - 1)
      else if 0x80 ≤ byte && byte < 0xC0 then some (owed - 1) else none
    return UInt8.ofNat byte :: (← tagBytes? owed cs)
  | owed, c :: cs =>
    if c = '%' ∨ owed ≠ 0 then none else (tagBytes? 0 cs).map (Text.utf8 [c] ++ ·)

/-- The text of a tag, which a null character ends, and what follows it. `head` is the part of
it that was already read; without one, there has to be more. -/
def tagText? (inAngles : Bool) (head : Option (List Char)) (gs : List Glyph) :
    Option (String × List Glyph) := do
  let run := (gs.takeWhile (isTagGlyph inAngles)).map Glyph.char
  if head.isNone && run.isEmpty then none
  let text := head.getD [] ++ (Text.lenient (← tagBytes? 0 run)).takeWhile (· != '\x00')
  return (String.ofList text, gs.dropWhile (isTagGlyph inAngles))

/-- The handle at the front: an exclamation mark, a word and perhaps a second mark. -/
def tagHandle? (gs : List Glyph) : Option (List Char × List Glyph) :=
  match gs with
  | [] => none
  | g :: rest =>
    if g.char ≠ '!' then none
    else
      let (word, rest) := spanWord rest
      match rest with
      | h :: more => if h.char = '!' then some ('!' :: word ++ ['!'], more)
        else some ('!' :: word, rest)
      | [] => some ('!' :: word, [])

/-- The handle and the suffix of a tag, and what follows it. A lone mark is a tag in full. -/
def tagParts? (gs : List Glyph) : Option (Token × List Glyph) :=
  match gs with
  | _ :: g :: rest =>
    if g.char = '<' then do
      let (text, rest) ← tagText? true none rest
      if !startsWith '>' rest then none
      return (.tag "" text, rest.drop 1)
    else shorthand? gs
  | _ => shorthand? gs
where
  shorthand? (gs : List Glyph) : Option (Token × List Glyph) := do
    let (handle, rest) ← tagHandle? gs
    if 1 < handle.length && handle.getLast? == some '!' then
      let (suffix, rest) ← tagText? false none rest
      return (.tag (String.ofList handle) suffix, rest)
    else
      let (suffix, rest) ← tagText? false (some (handle.drop 1)) rest
      return (if suffix.isEmpty then .tag "" "!" else .tag "!" suffix, rest)

/-- A tag, which white space has to follow or, in a flow collection, a comma. -/
def tag? (flow : Bool) (gs : List Glyph) : Option (Token × List Glyph) := do
  let (token, rest) ← tagParts? gs
  if atSpace rest || (flow && startsWith ',' rest) then return (token, rest) else none

/-! ## Directives -/

/-- A number of at most nine digits and what follows it. -/
def versionNumber? (gs : List Glyph) : Option (Nat × List Glyph) :=
  let digits := gs.takeWhile fun g => Text.isDigit g.char
  if digits.isEmpty || 9 < digits.length then none
  else some (digits.foldl (fun n g => n * 10 + (g.char.toNat - '0'.toNat)) 0,
    gs.dropWhile fun g => Text.isDigit g.char)

/-- The value of a directive that gives a version. -/
def versionValue? (gs : List Glyph) : Option (Token × List Glyph) := do
  let (major, rest) ← versionNumber? (dropBlanks gs)
  if !startsWith '.' rest then none
  let (minor, rest) ← versionNumber? (rest.drop 1)
  return (.version major minor, rest)

/-- The value of a directive that gives a handle and what it stands for. -/
def handleValue? (gs : List Glyph) : Option (Token × List Glyph) := do
  let (handle, rest) ← tagHandle? (dropBlanks gs)
  if handle ≠ ['!'] && handle.getLast? ≠ some '!' then none
  if (rest.takeWhile Glyph.isBlank).isEmpty then none
  let (start, rest) ← tagText? true none (dropBlanks rest)
  if !atSpace rest then none
  return (.tagHandle (String.ofList handle) start, rest)

/-- A directive after its percent sign, and the line after it. -/
def directive? (gs : List Glyph) : Option (Token × List Glyph) := do
  let (name, rest) := spanWord gs
  if name.isEmpty || !atSpace rest then none
  let (token, rest) ←
    if name = "YAML".toList then versionValue? rest
    else if name = "TAG".toList then handleValue? rest
    else none
  return (token, ← restOfLine? rest)

end Waymark.Yaml
