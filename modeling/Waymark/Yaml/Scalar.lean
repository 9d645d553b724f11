import Waymark.Text.Ascii
import Waymark.Yaml.Glyph

/-!
# Scalars of YAML

The five ways to write a text. Plain and quoted scalars run over lines: the
white space between two words is kept as it is on one line, a single line end
becomes a blank, and of several line ends all but the first are kept. In a
block scalar every line is indented; the literal style keeps its line ends and
the folded style joins lines as above, but not next to lines that are indented
deeper.
-/

namespace Waymark.Yaml

/-- White space after a word: blanks, or line ends with the blanks around them dropped.
`first` is none where the first line end was escaped. -/
inductive Gap where
  | blanks (run : List Char)
  | breaks (first : Option Char) (more : List Char)

namespace Gap

def empty : Gap := .blanks []

/-- The gap with one more glyph of white space. -/
def push (gap : Gap) (g : Glyph) : Gap :=
  match gap with
  | .blanks run => if g.isBreak then .breaks (some g.char) [] else .blanks (run ++ [g.char])
  | .breaks first more => if g.isBreak then .breaks first (more ++ [g.char]) else gap

/-- The characters that a gap stands for between two words. -/
def folded : Gap → List Char
  | .blanks run => run
  | .breaks (some '\n') [] => [' ']
  | .breaks (some '\n') more => more
  | .breaks first more => first.toList ++ more

def isEmpty : Gap → Bool
  | .blanks [] => true
  | _ => false

/-- Whether the gap goes over the end of a line. -/
def isBroken : Gap → Bool
  | .blanks _ => false
  | .breaks .. => true

end Gap

/-! ## Plain scalars -/

/-- The text of a plain scalar, whether a new line was begun behind it, and what follows. -/
structure PlainScalar where
  text : String
  broken : Bool
  rest : List Glyph

/-- Whether a plain scalar ends before the glyph `g`, which `rest` follows. -/
def endsPlain (flow : Bool) (g : Glyph) (rest : List Glyph) : Bool :=
  (g.char == ':' && atSpace rest) || (flow && g.isOneOf ",[]\x7b\x7d")

/-- Whether a plain scalar ends at a gap before `gs`: at a document's edge, at a comment and,
in a block, where the indentation is less than `margin`. -/
def endsAtGap (flow : Bool) (margin : Nat) (g : Glyph) (rest : List Glyph) : Bool :=
  atDocumentEdge (g :: rest) || g.char == '#' || (!flow && g.column < margin)

/-- Reads a plain scalar on, with the characters read so far in reverse. -/
def plainFrom? (flow : Bool) (margin : Nat) : List Char → Gap → List Glyph → Option PlainScalar
  | done, gap, [] => some ⟨String.ofList done.reverse, gap.isBroken, []⟩
  | done, gap, g :: rest =>
    if g.isSpace then
      if g.char == '\t' && gap.isBroken && g.column < margin then none
      else plainFrom? flow margin done (gap.push g) rest
    else if !gap.isEmpty && endsAtGap flow margin g rest then
      some ⟨String.ofList done.reverse, gap.isBroken, g :: rest⟩
    else if flow && g.char == ':' && startsWithOneOf ",?[]\x7b\x7d" rest then none
    else if endsPlain flow g rest then
      some ⟨String.ofList done.reverse, gap.isBroken, g :: rest⟩
    else plainFrom? flow margin (g.char :: (gap.folded.reverse ++ done)) .empty rest

/-- A plain scalar whose lines are indented by at least `margin`. -/
def plain? (flow : Bool) (margin : Nat) (gs : List Glyph) : Option PlainScalar :=
  plainFrom? flow margin [] .empty gs

/-! ## Quoted scalars -/

/-- A text in single quotes after the opening quote, and what follows the closing one. -/
def singleFrom? : List Char → Gap → List Glyph → Option (String × List Glyph)
  | _, _, [] => none
  | done, gap, g :: rest =>
    if g.isSpace then singleFrom? done (gap.push g) rest
    else if atDocumentEdge (g :: rest) then none
    else
      let done := gap.folded.reverse ++ done
      if g.char ≠ '\'' then singleFrom? (g.char :: done) .empty rest
      else match rest with
        | [] => some (String.ofList done.reverse, [])
        | h :: more =>
          if h.char = '\'' then singleFrom? ('\'' :: done) .empty more
          else some (String.ofList done.reverse, h :: more)

/-- What a letter stands for behind a backslash. -/
inductive Escape where
  | char (c : Char)
  /-- A character by its number in so many hexadecimal digits. -/
  | code (digits : Nat)

def escape? : Char → Option Escape
  | '0' => some (.char '\x00')
  | 'a' => some (.char '\x07')
  | 'b' => some (.char '\x08')
  | 't' => some (.char '\t')
  | '\t' => some (.char '\t')
  | 'n' => some (.char '\n')
  | 'v' => some (.char '\x0b')
  | 'f' => some (.char '\x0c')
  | 'r' => some (.char '\r')
  | 'e' => some (.char '\x1b')
  | ' ' => some (.char ' ')
  | '"' => some (.char '"')
  | '/' => some (.char '/')
  | '\\' => some (.char '\\')
  | 'N' => some (.char '\u0085')
  | '_' => some (.char '\u00a0')
  | 'L' => some (.char '\u2028')
  | 'P' => some (.char '\u2029')
  | 'x' => some (.code 2)
  | 'u' => some (.code 4)
  | 'U' => some (.code 8)
  | _ => none

/-- What a reader of double quotes is in the middle of. -/
inductive Quoting where
  | text
  | escape
  /-- So many digits of a character's number are owed; the ones read make `value`. -/
  | code (owed value : Nat)

/-- A text in double quotes after the opening quote, and what follows the closing one. -/
def doubleFrom? : Quoting → List Char → Gap → List Glyph → Option (String × List Glyph)
  | _, _, _, [] => none
  | .text, done, gap, g :: rest =>
    if g.isSpace then doubleFrom? .text done (gap.push g) rest
    else if atDocumentEdge (g :: rest) then none
    else
      let done := gap.folded.reverse ++ done
      if g.char = '"' then some (String.ofList done.reverse, rest)
      else if g.char = '\\' then doubleFrom? .escape done .empty rest
      else doubleFrom? .text (g.char :: done) .empty rest
  | .escape, done, _, g :: rest =>
    if g.isBreak then doubleFrom? .text done (.breaks none []) rest
    else match escape? g.char with
      | some (.char c) => doubleFrom? .text (c :: done) .empty rest
      | some (.code digits) => doubleFrom? (.code digits 0) done .empty rest
      | none => none
  | .code owed value, done, _, g :: rest =>
    match Text.hexValue? g.char with
    | none => none
    | some d =>
      let value := value * 16 + d
      if 1 < owed then doubleFrom? (.code (owed - 1) value) done .empty rest
      else if value.isValidChar then doubleFrom? .text (Char.ofNat value :: done) .empty rest
      else none

/-! ## Block scalars -/

/-- What is done with the line ends at the end of a block scalar. -/
inductive Chomping where
  | clip
  | strip
  | keep
  deriving DecidableEq

/-- The marks after the indicator of a block scalar. -/
structure BlockHeader where
  chomping : Chomping := .clip
  /-- The given indentation, or zero if it is to be found. -/
  indent : Nat := 0

def chomping? (g : Glyph) : Option Chomping :=
  if g.char = '+' then some .keep else if g.char = '-' then some .strip else none

/-- The header of a block scalar and what follows its marks. An indentation of zero cannot be
given. -/
def blockHeader? (gs : List Glyph) : Option (BlockHeader × List Glyph) :=
  let digit (gs : List Glyph) : Option (Nat × List Glyph) := match gs with
    | g :: rest =>
      if !Text.isDigit g.char then some (0, gs)
      else if g.char = '0' then none
      else some (g.char.toNat - '0'.toNat, rest)
    | [] => some (0, [])
  let mark (gs : List Glyph) : Option (Chomping × List Glyph) := match gs with
    | g :: rest => (chomping? g).map fun c => (c, rest)
    | [] => none
  match mark gs with
  | some (chomping, rest) => (digit rest).map fun (indent, rest) => (⟨chomping, indent⟩, rest)
  | none => do
    let (indent, rest) ← digit gs
    if indent = 0 then return ({}, gs)
    match mark rest with
    | some (chomping, rest) => return (⟨chomping, indent⟩, rest)
    | none => return (⟨.clip, indent⟩, rest)

/-- A block scalar in the middle of being read. -/
structure BlockScan where
  folding : Bool
  chomping : Chomping
  /-- The indentation of the lines around the scalar, one more than their column. -/
  margin : Nat
  /-- The indentation of the scalar's own lines, or zero while it is not known. -/
  indent : Nat
  /-- The deepest column among the lines before the first one that has text. -/
  deepest : Nat := 0
  /-- The text so far, in reverse. -/
  done : List Char := []
  /-- The end of the last line that has text. -/
  lineEnd : Option Char := none
  /-- The ends of the empty lines after it. -/
  empties : List Char := []
  /-- Whether the last line with text started with a blank. -/
  deep : Bool := false

namespace BlockScan

/-- The text, with its end chomped. -/
def text (s : BlockScan) : String :=
  let lineEnd := if s.chomping = .strip then [] else s.lineEnd.toList
  let empties := if s.chomping = .keep then s.empties else []
  String.ofList (s.done.reverse ++ lineEnd ++ empties)

/-- Joins the text so far to a line that starts with the glyph `g`. -/
def startLine (s : BlockScan) (g : Glyph) : BlockScan :=
  let joint :=
    if s.folding && s.lineEnd == some '\n' && !s.deep && !g.isBlank then
      if s.empties.isEmpty then [' '] else []
    else s.lineEnd.toList
  { s with
    done := (joint ++ s.empties).reverse ++ s.done
    lineEnd := none
    empties := []
    deep := g.isBlank }

/-- Whether a blank at that column is indentation. -/
def isMargin (s : BlockScan) (g : Glyph) : Bool := s.indent == 0 || g.column < s.indent

/-- The scan at the first glyph of a line that is not indentation. -/
def arrive (s : BlockScan) (g : Glyph) : BlockScan := { s with deepest := max s.deepest g.column }

/-- The scan with the indentation found, at the latest at the first line that has text. -/
def settle (s : BlockScan) : BlockScan :=
  if s.indent = 0 then { s with indent := max (max s.deepest s.margin) 1 } else s

/-- Reads on, inside a line or in front of one. -/
def run? : (inLine : Bool) → BlockScan → List Glyph → Option (String × List Glyph)
  | _, s, [] => some (s.text, [])
  | true, s, g :: rest =>
    if g.isBreak then run? false { s with lineEnd := some g.char } rest
    else run? true { s with done := g.char :: s.done } rest
  | false, s, g :: rest =>
    if g.char = ' ' ∧ s.isMargin g then run? false s rest
    else
      let s := s.arrive g
      if g.char = '\t' ∧ s.isMargin g then none
      else if g.isBreak then run? false { s with empties := s.empties ++ [g.char] } rest
      else
        let s := s.settle
        if g.column = s.indent then
          run? true { s.startLine g with done := g.char :: (s.startLine g).done } rest
        else some (s.text, g :: rest)

end BlockScan

/-- A block scalar after its indicator, and what follows it. -/
def block? (folding : Bool) (margin : Nat) (gs : List Glyph) : Option (String × List Glyph) := do
  let (header, rest) ← blockHeader? gs
  let rest ← restOfLine? rest
  let indent := if header.indent = 0 then 0 else margin - 1 + header.indent
  BlockScan.run? false
    { folding := folding, chomping := header.chomping, margin := margin, indent := indent } rest

end Waymark.Yaml
