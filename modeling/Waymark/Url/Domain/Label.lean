import Waymark.Unicode.Direction
import Waymark.Unicode.Joining
import Waymark.Unicode.Mark
import Waymark.Unicode.Normalization
import Waymark.Url.Domain.Mapping
import Waymark.Url.Punycode

/-!
# Labels of domain names

The labels of a name, between its points. A label in punycode stands for a
text, which has to be one that the mapping leaves alone. A label may not start
with a mark, the two joiners may stand only where they make a difference to
cursive letters, and in a name with text from right to left each label keeps
to one direction.
-/

namespace Waymark.Domain

open Unicode

/-- The text of a label. Punycode is read up to 2000 characters and cannot end with a hyphen. -/
def text? (label : List Char) : Option (List Char) :=
  match Text.after? "xn--".toList label with
  | none => some label
  | some code => do
    if code.getLast?.all (· == '-') || 2000 < code.length || !code.all Punycode.isBasic then none
    let text ← Punycode.decode? code
    if text.all isStable && normalize text == text then return text else none

/-! ## Joiners -/

/-- The class of the marks that take the vowel from a letter. -/
def viramaClass : Nat := 9

/-- Whether letters on this side of a joiner join it, with the nearest one first. -/
def joins (sides : List Joining) (cs : List Char) : Bool :=
  ((cs.map joining).find? (· ≠ .transparent)).any sides.contains

/-- Whether the joiner `c` makes a difference between the characters before it, the nearest
first, and those after it. -/
def isJoinerInPlace (c : Char) (before after : List Char) : Bool :=
  before.head?.any fun b => combiningClass b == viramaClass ||
    (c == '\u200C' && joins [.next, .both] before && joins [.previous, .both] after)

/-- Whether all joiners are in place, with the characters read so far in reverse. -/
def hasJoinersInPlace (before : List Char) : List Char → Bool
  | [] => true
  | c :: cs =>
    ((c != '\u200C' && c != '\u200D') || isJoinerInPlace c before cs) &&
      hasJoinersInPlace (c :: before) cs

/-! ## Directions -/

/-- Whether a text takes part in writing from right to left. -/
def isRightward (text : List Char) : Bool :=
  text.any fun c => direction c == .right || direction c == .arabicNumber

/-- Whether a text keeps to the direction of its first character: it ends, marks aside, with a
letter of that direction or a number, has no letter of the other, and does not mix numbers. -/
def isOneWay (text : List Char) : Bool :=
  let ds := text.map direction
  let final := (ds.reverse.find? (· ≠ .mark)).getD .neutral
  match ds with
  | [] => true
  | .left :: _ => (final == .left || final == .number) && !isRightward text
  | .right :: _ =>
    (final == .right || final == .number || final == .arabicNumber) && !ds.contains .left &&
      !(ds.contains .number && ds.contains .arabicNumber)
  | _ => false

/-! ## Labels -/

/-- Whether a text may be a label. Beyond ASCII it has at most 1000 characters. -/
def isLabel (text : List Char) : Bool :=
  !text.head?.any isMark && hasJoinersInPlace [] text &&
    (text.all Punycode.isBasic || text.length ≤ 1000)

/-- A text as a label in ASCII. -/
def label (text : List Char) : List Char :=
  if text.all Punycode.isBasic then text else "xn--".toList ++ Punycode.encode text

end Waymark.Domain
