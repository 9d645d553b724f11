import Waymark.Yaml.Property

/-!
# The layout of a YAML text

A block collection is opened by its first entry and closed by the first token
that stands further left. A key of a mapping need not be announced, so every
node that may be one is remembered together with the place of its token: when
a colon follows on the same line, within 1024 bytes, the token that
announces the key is put in front of the node, and the mapping is opened there
if none is open at that column.
-/

namespace Waymark.Yaml

/-- A node that is a key if a colon follows. -/
structure KeyCandidate where
  /-- The number of tokens in front of the node. -/
  position : Nat
  /-- Whether the node can be nothing but a key. -/
  required : Bool
  start : Glyph

/-- The tokens of the text that has been read, and what decides about those to come. -/
structure Layout where
  tokens : Array Token := #[]
  /-- One more than the column of the innermost block collection; zero outside of all. -/
  margin : Nat := 0
  /-- The margins of the collections around it. -/
  outer : List Nat := []
  /-- Whether a key may start here. -/
  keyAllowed : Bool := true
  candidate : Option KeyCandidate := none
  /-- The candidates around each open flow collection, the innermost first. -/
  around : List (Option KeyCandidate) := []

namespace Layout

/-- Whether a flow collection is open. -/
def inFlow (l : Layout) : Bool := !l.around.isEmpty

def put (l : Layout) (t : Token) : Layout := { l with tokens := l.tokens.push t }

def allowKey (l : Layout) (allowed : Bool) : Layout := { l with keyAllowed := allowed }

/-! ## Block collections -/

/-- Opens a block collection at a column unless one is open there or further right; its token
goes to `position`. -/
def indent (l : Layout) (column position : Nat) (t : Token) : Layout :=
  if l.inFlow || column < l.margin then l
  else
    { l with
      outer := l.margin :: l.outer
      margin := column + 1
      tokens := l.tokens.insertIdxIfInBounds position t }

/-- Closes the block collections whose column is `limit` or more. -/
def close (limit : Nat) (tokens : Array Token) (margin : Nat) :
    List Nat → Array Token × Nat × List Nat
  | [] => (tokens, margin, [])
  | m :: outer =>
    if limit < margin then close limit (tokens.push .blockEnd) m outer
    else (tokens, margin, m :: outer)

/-- Closes the block collections to the right of a place; one at the place itself stays open.
`limit` is one more than the column of the place, or zero for closing all. -/
def unindent (l : Layout) (limit : Nat) : Layout :=
  if l.inFlow then l
  else
    let (tokens, margin, outer) := close limit l.tokens l.margin l.outer
    { l with tokens := tokens, margin := margin, outer := outer }

/-! ## Keys that are not announced -/

/-- Gives the candidate up, unless it can be nothing but a key. -/
def dropCandidate? (l : Layout) : Option Layout :=
  match l.candidate with
  | some c => if c.required then none else some { l with candidate := none }
  | none => some l

/-- Whether a candidate is too far from the glyph `g` to be a key. -/
def KeyCandidate.isStale (c : KeyCandidate) (g : Glyph) : Bool :=
  c.start.line < g.line || c.start.index + 1024 < g.index

/-- Gives the candidate up if it is too far from `g`. Those around an open flow collection are
looked at when it is closed: by then they are no nearer. -/
def dropStale? (l : Layout) (g : Glyph) : Option Layout :=
  if l.candidate.any (KeyCandidate.isStale · g) then l.dropCandidate? else some l

/-- Remembers the node that starts with `g` as a candidate, where a key may start. -/
def offer? (l : Layout) (g : Glyph) : Option Layout :=
  if !l.keyAllowed then some l
  else do
    let required := !l.inFlow && l.margin == g.column + 1
    let l ← l.dropCandidate?
    return { l with candidate := some ⟨l.tokens.size, required, g⟩ }

/-! ## Tokens, one at a time -/

/-- The token of one mark that opens a flow collection. -/
def openFlow? (l : Layout) (g : Glyph) (t : Token) : Option Layout := do
  let l ← l.offer? g
  return { l with around := l.candidate :: l.around, candidate := none, keyAllowed := true }.put t

/-- The token of one mark that closes a flow collection. -/
def closeFlow? (l : Layout) (t : Token) : Option Layout := do
  let l ← l.dropCandidate?
  let l : Layout := match l.around with
    | c :: around => { l with candidate := c, around := around }
    | [] => l
  return (l.allowKey false).put t

/-- An entry of a block sequence. In a flow collection there is none, which shows when nodes
are made of the tokens. -/
def dash? (l : Layout) (g : Glyph) : Option Layout := do
  if !l.inFlow && !l.keyAllowed then none
  let l := if l.inFlow then l else l.indent g.column l.tokens.size .blockSequence
  let l ← l.dropCandidate?
  return (l.allowKey true).put .dash

/-- A key that is announced. -/
def key? (l : Layout) (g : Glyph) : Option Layout := do
  if !l.inFlow && !l.keyAllowed then none
  let l := l.indent g.column l.tokens.size .blockMapping
  let l ← l.dropCandidate?
  return (l.allowKey !l.inFlow).put .key

/-- The colon in front of a value. It makes a key of the candidate; without one the key is
empty or was announced. -/
def value? (l : Layout) (g : Glyph) : Option Layout :=
  match l.candidate with
  | some c =>
    let l := { l with tokens := l.tokens.insertIdxIfInBounds c.position .key, candidate := none }
    some (((l.indent c.start.column c.position .blockMapping).allowKey false).put .value)
  | none =>
    if !l.inFlow && !l.keyAllowed then none
    else
      let l := l.indent g.column l.tokens.size .blockMapping
      some ((l.allowKey !l.inFlow).put .value)

/-- A directive or an edge of a document, which ends all block collections. -/
def edge? (l : Layout) (t : Token) : Option Layout := do
  let l ← (l.unindent 0).dropCandidate?
  return (l.allowKey false).put t

/-- A token that is or starts a node which may be a key. -/
def leaf? (l : Layout) (g : Glyph) (t : Token) : Option Layout := do
  let l ← l.offer? g
  return (l.allowKey false).put t

/-- A block scalar, which is never a key; a key may follow it. -/
def blockScalar? (l : Layout) (t : Token) : Option Layout := do
  let l ← l.dropCandidate?
  return (l.allowKey true).put t

/-! ## The whole text -/

/-- Skips white space and comments up to the next token. In front of a key, a tab is no white
space; a new line allows keys unless a flow collection is open. One byte order mark may start
a line. -/
def skipGap (flow : Bool) : (keyAllowed inComment : Bool) → List Glyph → Bool × List Glyph
  | keyAllowed, _, [] => (keyAllowed, [])
  | keyAllowed, inComment, g :: rest =>
    if g.isBreak then skipGap flow (keyAllowed || !flow) false rest
    else if inComment || g.char == '#' then skipGap flow keyAllowed true rest
    else if g.char == ' ' || (g.char == '\t' && (flow || !keyAllowed)) ||
        (g.char == byteOrderMark && g.column == 0) then skipGap flow keyAllowed false rest
    else (keyAllowed, g :: rest)

/-- Whether a plain scalar may start with the glyph `g` that `rest` follows. -/
def startsPlain (flow : Bool) (g : Glyph) (rest : List Glyph) : Bool :=
  !(g.isSpace || g.isOneOf "-?:,[]\x7b\x7d#&*!|>'\"%@\x60") ||
    (g.char == '-' && !(rest.head?.any Glyph.isBlank)) ||
    (!flow && g.isOneOf "?:" && !atSpace rest)

/-- The layout after the token that starts with `g`, and what follows the token. -/
def step? (l : Layout) (g : Glyph) (rest : List Glyph) : Option (Layout × List Glyph) :=
  let leaf (t? : Option (Token × List Glyph)) : Option (Layout × List Glyph) := do
    let (t, rest) ← t?
    return (← l.leaf? g t, rest)
  let scalar (style : ScalarStyle) (s? : Option (String × List Glyph)) :
      Option (Token × List Glyph) := s?.map fun (s, rest) => (.scalar style s, rest)
  let block (style : ScalarStyle) : Option (Layout × List Glyph) := do
    let (t, rest) ← scalar style (block? (style == .folded) l.margin rest)
    return (← l.blockScalar? t, rest)
  if g.column = 0 ∧ g.char = '%' then do
    let (t, rest) ← directive? rest
    return (← l.edge? t, rest)
  else if atMarker '-' (g :: rest) then (l.edge? .documentStart).map (·, rest.drop 2)
  else if atMarker '.' (g :: rest) then (l.edge? .documentEnd).map (·, rest.drop 2)
  else if g.char = '[' then (l.openFlow? g .sequenceOpen).map (·, rest)
  else if g.char = '\x7b' then (l.openFlow? g .mappingOpen).map (·, rest)
  else if g.char = ']' then (l.closeFlow? .sequenceClose).map (·, rest)
  else if g.char = '\x7d' then (l.closeFlow? .mappingClose).map (·, rest)
  else if g.char = ',' then do return (((← l.dropCandidate?).allowKey true).put .comma, rest)
  else if g.char = '-' ∧ atSpace rest then (l.dash? g).map (·, rest)
  else if g.char = '?' ∧ (l.inFlow || atSpace rest) then (l.key? g).map (·, rest)
  else if g.char = ':' ∧ (l.inFlow || atSpace rest) then (l.value? g).map (·, rest)
  else if g.char = '*' then leaf ((anchorName? rest).map fun (n, rest) => (.alias n, rest))
  else if g.char = '&' then leaf ((anchorName? rest).map fun (n, rest) => (.anchor n, rest))
  else if g.char = '!' then leaf (tag? l.inFlow (g :: rest))
  else if g.char = '|' ∧ !l.inFlow then block .literal
  else if g.char = '>' ∧ !l.inFlow then block .folded
  else if g.char = '\'' then leaf (scalar .singleQuoted (singleFrom? [] .empty rest))
  else if g.char = '"' then leaf (scalar .doubleQuoted (doubleFrom? .text [] .empty rest))
  else if startsPlain l.inFlow g rest then do
    let s ← plain? l.inFlow l.margin (g :: rest)
    let l ← l.leaf? g (.scalar .plain s.text)
    return (l.allowKey (l.keyAllowed || s.broken), s.rest)
  else none

/-- The layout at the end of the text. -/
def finish? (l : Layout) : Option Layout := (l.unindent 0).dropCandidate?

/-- Reads tokens to the end of the text; `fuel` bounds their number. -/
def run? : (fuel : Nat) → Layout → List Glyph → Option Layout
  | 0, _, _ => none
  | fuel + 1, l, gs =>
    let (keyAllowed, gs) := skipGap l.inFlow l.keyAllowed false gs
    let l := l.allowKey keyAllowed
    match gs with
    | [] => l.finish?
    | g :: rest => do
      let l ← l.dropStale? g
      let (l, rest) ← (l.unindent (g.column + 1)).step? g rest
      run? fuel l rest

end Layout

/-- The tokens of a text. -/
def tokens? (text : String) : Option (List Token) := do
  let gs ← glyphs? text
  let l ← Layout.run? (gs.length + 1) {} gs
  return l.tokens.toList

end Waymark.Yaml
