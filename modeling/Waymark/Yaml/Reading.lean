import Waymark.Text.Integer
import Waymark.Yaml.Node

/-!
# Reading YAML nodes

What a node is depends on what is wanted. Every scalar can be read as text; a
plain one, or a literal one with the fitting tag, also as a truth value or a
size. A plain scalar without characters is an empty collection where one is
wanted, and stands for nothing where nothing is allowed.
-/

namespace Waymark.Yaml

/-- The tags of the scalars that are something other than text. -/
def coreTag (name : String) : String := "tag:yaml.org,2002:" ++ name

def isNullWord (s : String) : Bool := s == "null" || s == "Null" || s == "NULL" || s == "~"

def readBool? (s : String) : Option Bool :=
  if s == "true" || s == "True" || s == "TRUE" then some true
  else if s == "false" || s == "False" || s == "FALSE" then some false
  else none

/-- A whole number in decimal without superfluous zeros, or with another radix in front. -/
def readSize? (s : String) : Option Nat :=
  let body := match s.toList with
    | '+' :: cs => cs
    | cs => cs
  let within (n? : Option Nat) : Option Nat := n?.filter (· ≤ Text.word64Max)
  match body with
  | '0' :: 'x' :: ds => within (Text.readDigitRun? 16 ds)
  | '0' :: 'o' :: ds => within (Text.readDigitRun? 8 ds)
  | '0' :: 'b' :: ds => within (Text.readDigitRun? 2 ds)
  | '0' :: _ :: _ => none
  | ds => within (Text.readDigitRun? 10 ds)

namespace Node

/-- The characters of a scalar of any style. -/
def text? : Node → Option String
  | .scalar _ _ s => some s
  | _ => none

/-- The characters of a scalar that may be something other than text: a plain one, or a literal
one with the given tag. -/
def word? (tag : String) : Node → Option String
  | .scalar _ .plain s => some s
  | .scalar (some t) .literal s => if t = tag then some s else none
  | _ => none

def flag? (n : Node) : Option Bool := (n.word? (coreTag "bool")).bind readBool?

def size? (n : Node) : Option Nat := (n.word? (coreTag "int")).bind readSize?

/-- Whether a node stands for nothing; `none` for a node that is tagged as nothing and is
something. Any other tag makes a scalar something. -/
def absent? : Node → Option Bool
  | .scalar none .plain s => some (s.isEmpty || isNullWord s)
  | .scalar (some t) .plain s =>
    if t ≠ coreTag "null" then some false else if isNullWord s then some true else none
  | _ => some false

/-- The items of a sequence. -/
def items? : Node → Option (List Node)
  | .sequence items => some items
  | .scalar _ .plain "" => some []
  | _ => none

/-- The entries of a mapping. -/
def entries? : Node → Option (List (Node × Node))
  | .mapping entries => some entries
  | .scalar _ .plain "" => some []
  | _ => none

end Node

/-! ## Aliases -/

/-- A reading that follows aliases. Its state is how many more it may follow, so that a short
text cannot stand for a huge value. -/
abbrev Following := StateT Nat Option

namespace Document

/-- How many aliases may be followed when a document is read. -/
def allowance (d : Document) : Nat := 100 * d.root.marks

/-- The node that a node stands for. -/
def follow (d : Document) : Node → Following Node
  | .alias number => do
    let left ← get
    if left = 0 then failure
    set (left - 1)
    (d.named? number).getM
  | n => return n

/-- The fields of a record, which is a mapping whose keys are scalars. -/
def fields (d : Document) (n : Node) : Following (List (String × Node)) := do
  (← n.entries?.getM).mapM fun (k, v) => return (← (← d.follow k).text?.getM, v)

end Document

end Waymark.Yaml
