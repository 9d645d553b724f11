import Waymark.Param.Params
import Waymark.Template.Basic

/-!
# Filling templates

Values are put into the holes in one pass from left to right, so a value that
looks like a hole stays as it is. A hole without a value is written by its
name, and one hole may be left blank: a node that rebuilds its own prefix
leaves the rest of the path to the nodes below it. The parameters that had no
hole are what those nodes get.
-/

namespace Waymark.Template

/-- The text of one piece with its value from the parameters. -/
def fillPiece (params : Params) (blank : Option String) :
    Piece → Except ConversionError (List Char)
  | .literal text => .ok text
  | .hole h =>
    if blank = some h.name then .ok []
    else match params.get? h.name with
      | some value => (h.converter.encode value).map String.toList
      | none => .ok (braced h.name.toList)

def fillPieces (params : Params) (blank : Option String) :
    List Piece → Except ConversionError (List Char)
  | [] => .ok []
  | p :: ps => do
    let text ← fillPiece params blank p
    return text ++ (← fillPieces params blank ps)

/-- The template with the parameters in its holes, and the parameters without a hole. The
parameter named `blank` counts as placed, and a hole of that name takes nothing. -/
def fill (t : Template) (params : Params) (blank : Option String) :
    Except ConversionError (String × Params) := do
  let text ← fillPieces params blank t.pieces
  return (String.ofList text,
    params.restrict fun name => !t.names.contains name && blank != some name)

end Waymark.Template
