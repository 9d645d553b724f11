/-!
# Cutting texts

Texts are cut as lists of characters, so that every cut is a list fact: the
part that is kept, the part that is dropped, and the two together are the
whole. The names say at which end a cut is made and what stops it.
-/

namespace Waymark.Text

/-- What remains of `cs` once the characters at its end that satisfy `p` are gone. -/
def trimEnd (p : Char → Bool) (cs : List Char) : List Char :=
  (cs.reverse.dropWhile p).reverse

/-- The text before the first `c` and the text after it; `none` when there is no `c`. -/
def cutAt? (c : Char) : List Char → Option (List Char × List Char)
  | [] => none
  | d :: ds =>
    if d = c then some ([], ds)
    else (cutAt? c ds).map fun (before, after) => (d :: before, after)

/-- The pieces between the occurrences of `c`; a text without `c` is its only piece. -/
def pieces (c : Char) : List Char → List (List Char)
  | [] => [[]]
  | d :: ds =>
    match pieces c ds with
    | [] => [[]]
    | p :: ps => if d = c then [] :: p :: ps else (d :: p) :: ps

/-- The lines of a text: what ends with a line feed, and what is left at the end. A carriage
return in front of the line feed belongs to the end of the line. -/
def lines : List Char → List (List Char)
  | [] => []
  | '\r' :: '\n' :: cs => [] :: lines cs
  | '\n' :: cs => [] :: lines cs
  | c :: cs =>
    match lines cs with
    | [] => [[c]]
    | l :: ls => (c :: l) :: ls

/-- The lines of some texts that are written one below the other. -/
def linesBelow (texts : List String) : List String :=
  texts.flatMap fun t => (lines (t.toList ++ ['\n'])).map String.ofList

/-- The rest of `cs` after `lead`, if it starts so. -/
def after? (lead cs : List Char) : Option (List Char) :=
  if lead.isPrefixOf cs then some (cs.drop lead.length) else none

/-- The texts joined with `sep` between neighbours. -/
def joined (sep : String) : List String → String
  | [] => ""
  | [s] => s
  | s :: rest => s ++ sep ++ joined sep rest

/-- The text with one trailing run of `c` removed. -/
def dropTrailing (c : Char) (s : String) : String :=
  String.ofList (trimEnd (· == c) s.toList)

/-- The text with one leading run of `c` removed. -/
def dropLeading (c : Char) (s : String) : String :=
  String.ofList (s.toList.dropWhile (· == c))

/-! ## Laws of the cuts -/

theorem after?_eq_some {lead cs rest : List Char} (h : after? lead cs = some rest) :
    cs = lead ++ rest := by
  simp only [after?, Option.ite_none_right_eq_some, Option.some.injEq,
    List.isPrefixOf_iff_prefix] at h
  obtain ⟨⟨t, rfl⟩, rfl⟩ := h
  simp

theorem pieces_ne_nil (c : Char) (cs : List Char) : pieces c cs ≠ [] := by
  cases cs with
  | nil => simp [pieces]
  | cons d ds =>
    simp only [pieces]
    split
    · simp
    · split <;> simp

end Waymark.Text
