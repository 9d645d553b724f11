import Waymark.Converter
import Waymark.Pattern.Reader
import Waymark.RouteError
import Waymark.Template.Notation

/-!
# Templates

A template is compiled once, when its node is registered: each hole gets the
converter that its kind names, and the converter's pattern is read. Two holes
never have one name, so a match gives every name one value.

Of several faults the leftmost counts, and at one hole an unknown converter
comes before a name that is taken. Patterns are read when all holes are known.
-/

namespace Waymark

/-- A place for a value. -/
structure Hole where
  name : String
  converter : Converter
  pattern : Pattern

/-- A part of a compiled template. -/
inductive Piece where
  | literal (text : List Char)
  | hole (hole : Hole)

namespace Piece

def name? : Piece → Option String
  | .literal _ => none
  | .hole h => some h.name

def hole? : Piece → Option Hole
  | .literal _ => none
  | .hole h => some h

/-- The piece in the canonical format: a hole by its name alone. -/
def format : Piece → List Char
  | .literal text => text
  | .hole h => Template.braced h.name.toList

/-- The piece in the notation of patterns, a hole as a group of its name. -/
def expression : Piece → List Char
  | .literal text => Pattern.escape text
  | .hole h => "(?P<".toList ++ h.name.toList ++ ['>'] ++ h.converter.pattern.toList ++ [')']

end Piece

structure Template where
  /-- The text it was compiled from. -/
  source : String
  pieces : List Piece
  distinct : (pieces.filterMap Piece.name?).Nodup

namespace Template

/-! ## Compiling -/

/-- The pieces of a template before patterns are read. -/
inductive Bound where
  | literal (text : List Char)
  | hole (name : String) (converter : Converter)

def Bound.name? : Bound → Option String
  | .literal _ => none
  | .hole name _ => some name

/-- Finds the converter of each hole. `seen` are the names of the holes before. -/
def bind (registry : Registry) (source : String) (seen : List String) :
    List Part → Except RouteError (List Bound)
  | [] => .ok []
  | .literal text :: ps => do return .literal text :: (← bind registry source seen ps)
  | .hole name kind :: ps => do
    let name := String.ofList name
    let some converter := registry.get? (String.ofList kind)
      | throw (.unknownConverter (String.ofList kind) source)
    if name ∈ seen then throw (.duplicateParameter name source)
    return .hole name converter :: (← bind registry source (name :: seen) ps)

/-- Reads the pattern of each hole. -/
def readPatterns? : List Bound → Option (List Piece)
  | [] => some []
  | .literal text :: bs => (readPatterns? bs).map (.literal text :: ·)
  | .hole name converter :: bs => do
    let pattern ← Pattern.read? converter.pattern
    return .hole ⟨name, converter, pattern⟩ :: (← readPatterns? bs)

theorem nodup_of_bind {registry : Registry} {source : String} {seen : List String}
    {ps : List Part} {bs : List Bound} (h : bind registry source seen ps = .ok bs) :
    (bs.filterMap Bound.name?).Nodup ∧ ∀ n ∈ bs.filterMap Bound.name?, n ∉ seen := by
  induction ps generalizing seen bs with
  | nil => cases h; simp
  | cons p ps ih =>
    cases p with
    | literal text =>
      simp only [bind] at h
      cases hb : bind registry source seen ps with
      | error e => rw [hb] at h; cases h
      | ok rest =>
        rw [hb] at h
        cases h
        rw [List.filterMap_cons_none rfl]
        exact ih hb
    | hole name kind =>
      simp only [bind] at h
      split at h
      case h_2 => cases h
      case h_1 converter _ =>
        split at h
        case isTrue => cases h
        case isFalse hn =>
          cases hb : bind registry source (String.ofList name :: seen) ps with
          | error e => rw [hb] at h; cases h
          | ok rest =>
            rw [hb] at h
            cases h
            obtain ⟨hd, hs⟩ := ih hb
            refine ⟨?_, ?_⟩
            · rw [List.filterMap_cons_some (f := Bound.name?) rfl]
              exact List.nodup_cons.mpr ⟨fun hm => hs _ hm (List.mem_cons_self ..), hd⟩
            · intro n hm
              rw [List.filterMap_cons_some (f := Bound.name?) rfl] at hm
              rcases List.mem_cons.mp hm with rfl | hm
              · exact hn
              · exact fun hin => hs n hm (List.mem_cons_of_mem _ hin)

theorem names_of_readPatterns? {bs : List Bound} {ps : List Piece}
    (h : readPatterns? bs = some ps) :
    ps.filterMap Piece.name? = bs.filterMap Bound.name? := by
  induction bs generalizing ps with
  | nil => simp only [readPatterns?, Option.some.injEq] at h; simp [← h]
  | cons b bs ih =>
    cases b with
    | literal text =>
      obtain ⟨rest, hr, rfl⟩ := Option.map_eq_some_iff.mp h
      rw [List.filterMap_cons_none rfl, List.filterMap_cons_none rfl, ih hr]
    | hole name converter =>
      obtain ⟨pattern, _, h⟩ := Option.bind_eq_some_iff.mp h
      obtain ⟨rest, hr, h⟩ := Option.bind_eq_some_iff.mp h
      cases h
      rw [List.filterMap_cons_some (f := Piece.name?) rfl,
        List.filterMap_cons_some (f := Bound.name?) rfl, ih hr]

/-- Compiles a template with the converters of a registry. -/
def compile (registry : Registry) (source : String) : Except RouteError Template :=
  match h : bind registry source [] (parts source.toList) with
  | .error e => .error e
  | .ok bounds =>
    match hp : readPatterns? bounds with
    | none => .error (.invalidPattern source)
    | some pieces =>
      .ok ⟨source, pieces, names_of_readPatterns? hp ▸ (nodup_of_bind h).1⟩

/-! ## Views -/

def holes (t : Template) : List Hole := t.pieces.filterMap Piece.hole?

/-- The names of the holes in order. -/
def names (t : Template) : List String := t.pieces.filterMap Piece.name?

/-- The canonical format: the template with the kinds of its holes erased. -/
def format (t : Template) : String := String.ofList (t.pieces.flatMap Piece.format)

/-- The template as one pattern for whole subjects, with a named group for each hole. -/
def expression (t : Template) : String :=
  String.ofList ('^' :: t.pieces.flatMap Piece.expression ++ ['$'])

/-- Templates are the same if they were compiled from one text. -/
def same (t u : Template) : Bool := t.source == u.source

def outline (t : Template) : String :=
  Text.Outline.record "CompiledPath"
    [("template", Text.quoted t.source), ("regex", Text.quoted t.expression),
      ("format", Text.quoted t.format), ("params", Text.Outline.list (t.names.map Text.quoted))]

end Template

end Waymark
