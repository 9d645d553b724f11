import Waymark.Text.Cut
import Waymark.Url.Domain.Label

/-!
# Domain names

A domain name is turned into ASCII in two steps: the whole name is mapped and
brought into normal form, and then each label with characters beyond ASCII is
written in punycode behind `xn--`.
-/

namespace Waymark.Domain

/-- A name in ASCII. -/
def ascii? (cs : List Char) : Option (List Char) := do
  let name := Unicode.normalize (← cs.mapM mapChar?).flatten
  if name.any isForbidden then none
  let texts ← (Text.pieces '.' name).mapM text?
  if !texts.all isLabel || (texts.any isRightward && !texts.all isOneWay) then none
  return (Text.joined "." (texts.map fun t => String.ofList (label t))).toList

end Waymark.Domain
