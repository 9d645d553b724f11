/-!
# Characters in place

What a YAML text means depends on where its characters stand: layout counts
columns, and a key has to end on the line it starts on. A text is therefore
read as a list of characters with their places. Lines end in one way only: a
carriage return, a line feed, the two together and a next-line character are
all read as a line feed, while the line and paragraph separators end a line
but stay what they are. Lines and columns count characters, but the distance
from the start of the text is measured in bytes.
-/

namespace Waymark.Yaml

/-- A character and the place where it stands. -/
structure Glyph where
  char : Char
  line : Nat
  column : Nat
  /-- How many bytes of the text stand before it. -/
  index : Nat
  deriving DecidableEq

/-- The characters that may stand in a text: no controls but tab, line ends and next line. -/
def isAllowed (c : Char) : Bool :=
  let n := c.toNat
  n == 0x9 || n == 0xA || n == 0xD || (0x20 ≤ n && n ≤ 0x7E) || n == 0x85 ||
    (0xA0 ≤ n && n ≤ 0xFFFD) || 0x10000 ≤ n

def isSeparator (c : Char) : Bool := c == '\u2028' || c == '\u2029'

def byteOrderMark : Char := '\uFEFF'

/-- The characters of a text with their places, the first one at the given place. -/
def place (line column index : Nat) : List Char → List Glyph
  | [] => []
  | '\r' :: '\n' :: cs => ⟨'\n', line, column, index⟩ :: place (line + 1) 0 (index + 2) cs
  | c :: cs =>
    let next := index + c.utf8Size
    if c = '\r' ∨ c = '\n' ∨ c = '\u0085' then
      ⟨'\n', line, column, index⟩ :: place (line + 1) 0 next cs
    else if isSeparator c then ⟨c, line, column, index⟩ :: place (line + 1) 0 next cs
    else ⟨c, line, column, index⟩ :: place line (column + 1) next cs

/-- The glyphs of a whole text; `none` if a character may not stand in it. A byte order mark
takes a column like any other character, also at the front. -/
def glyphs? (text : String) : Option (List Glyph) :=
  let cs := text.toList
  if cs.all isAllowed then some (place 0 0 0 cs) else none

namespace Glyph

/-- Whether the glyph ends a line. -/
def isBreak (g : Glyph) : Bool := g.char == '\n' || isSeparator g.char

def isBlank (g : Glyph) : Bool := g.char == ' ' || g.char == '\t'

/-- Whether a word ends before the glyph. -/
def isSpace (g : Glyph) : Bool := g.isBlank || g.isBreak

/-- The glyphs of names: ASCII letters, digits, `_` and `-`. -/
def isWord (g : Glyph) : Bool := g.char.isAlphanum || g.char == '_' || g.char == '-'

/-- Whether the glyph is one of those in `cs`. -/
def isOneOf (g : Glyph) (cs : String) : Bool := cs.toList.contains g.char

end Glyph

/-- Whether what follows is the end of the text or white space. -/
def atSpace : List Glyph → Bool
  | [] => true
  | g :: _ => g.isSpace

/-- Whether what follows starts with `c`. -/
def startsWith (c : Char) : List Glyph → Bool
  | [] => false
  | g :: _ => g.char == c

/-- Whether what follows starts with one of the characters in `cs`. -/
def startsWithOneOf (cs : String) : List Glyph → Bool
  | [] => false
  | g :: _ => g.isOneOf cs

/-- Whether three times `c` stand alone at the start of a line. -/
def atMarker (c : Char) : List Glyph → Bool
  | a :: b :: d :: rest =>
    a.column == 0 && a.char == c && b.char == c && d.char == c && atSpace rest
  | _ => false

/-- Whether a document starts or ends here. -/
def atDocumentEdge (gs : List Glyph) : Bool := atMarker '-' gs || atMarker '.' gs

/-- What follows the rest of a line, at its end. -/
def dropLine (gs : List Glyph) : List Glyph := gs.dropWhile fun g => !g.isBreak

def dropBlanks (gs : List Glyph) : List Glyph := gs.dropWhile Glyph.isBlank

/-- The start of the next line, if nothing but blanks and a comment stand on the rest of
this one. -/
def restOfLine? (gs : List Glyph) : Option (List Glyph) :=
  let gs := dropBlanks gs
  let gs := if startsWith '#' gs then dropLine gs else gs
  match gs with
  | [] => some []
  | g :: rest => if g.isBreak then some rest else none

end Waymark.Yaml
