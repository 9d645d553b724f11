import Waymark.Yaml.Layout

/-!
# Documents of YAML

The nodes that a list of tokens writes. A text holds exactly one document. A
node may be named by an anchor, and an alias stands for the node of that name.
Anchors are numbered by the count of the names in use before them, so two of
them may share a number; an alias means the node of its number that starts
last, which may enclose the alias.
-/

namespace Waymark.Yaml

inductive Node where
  | scalar (tag : Option String) (style : ScalarStyle) (text : String)
  | sequence (items : List Node)
  | mapping (entries : List (Node × Node))
  /-- Stands for the node that an anchor of that number names. -/
  | alias (number : Nat)
  deriving Inhabited

mutual

/-- The number of marks that write a node: one for a scalar or an alias, and one at each end of
a collection. -/
def Node.marks : Node → Nat
  | .scalar .. => 1
  | .alias _ => 1
  | .sequence items => 2 + Node.marksOfItems items
  | .mapping entries => 2 + Node.marksOfEntries entries

def Node.marksOfItems : List Node → Nat
  | [] => 0
  | n :: items => n.marks + Node.marksOfItems items

def Node.marksOfEntries : List (Node × Node) → Nat
  | [] => 0
  | (k, v) :: entries => k.marks + v.marks + Node.marksOfEntries entries

end

/-- A node that an anchor names. -/
structure NamedNode where
  /-- The number of its anchor. -/
  number : Nat
  /-- How many anchors stand before its own. -/
  rank : Nat
  node : Node

/-- The named nodes with one more, of which the last one to start keeps a number. -/
def NamedNode.insert (e : NamedNode) : List NamedNode → List NamedNode
  | [] => [e]
  | f :: named =>
    if f.number ≠ e.number then f :: NamedNode.insert e named
    else if f.rank < e.rank then e :: named
    else f :: named

structure Document where
  root : Node
  /-- The named nodes, one for each number. -/
  named : List NamedNode

/-- The node that has a number. -/
def Document.named? (d : Document) (number : Nat) : Option Node :=
  (d.named.find? fun e => e.number == number).map NamedNode.node

/-! ## Reading nodes -/

/-- The tokens that are left, and the names given so far. -/
structure NodeReader.State where
  rest : List Token
  /-- What the handles of tags stand for. -/
  handles : List (String × String) := []
  /-- The numbers of anchors by name. -/
  anchors : List (String × Nat) := []
  /-- How many anchors there were. -/
  ranks : Nat := 0
  named : List NamedNode := []

abbrev NodeReader := StateT NodeReader.State Option

namespace NodeReader

def peek : NodeReader (Option Token) := return (← get).rest.head?

def skip : NodeReader Unit := modify fun s => { s with rest := s.rest.drop 1 }

/-- Takes the token `t` if it is the next one. -/
def accept (t : Token) : NodeReader Bool := do
  if (← peek) = some t then
    skip
    return true
  return false

/-- Takes the token `t`; there has to be one. -/
def expect (t : Token) : NodeReader Unit := do
  if !(← accept t) then failure

/-- Whether the next token is one of those. -/
def isNext (ts : List Token) : NodeReader Bool := return (← peek).any ts.contains

/-- The node of no characters. -/
def emptyScalar : Node := .scalar none .plain ""

/-! ### Properties -/

/-- The tag that a handle and a suffix write. -/
def resolveTag (handle suffix : String) : NodeReader String := do
  if handle.isEmpty then return suffix
  match (← get).handles.find? fun h => h.1 == handle with
  | some (_, start) => return start ++ suffix
  | none => failure

/-- The properties in front of a node. -/
structure Properties where
  anchor : Option String := none
  tag : Option String := none

/-- Reads an anchor and a tag in either order; both may be missing. -/
def properties : NodeReader Properties := do
  let anchor? : NodeReader (Option String) := do
    match ← peek with
    | some (.anchor name) =>
      skip
      return some name
    | _ => return none
  let tag? : NodeReader (Option (String × String)) := do
    match ← peek with
    | some (.tag handle suffix) =>
      skip
      return some (handle, suffix)
    | _ => return none
  let first ← anchor?
  let tag ← tag?
  let anchor ← if first.isNone then anchor? else pure first
  match tag with
  | some (handle, suffix) => return ⟨anchor, some (← resolveTag handle suffix)⟩
  | none => return ⟨anchor, none⟩

/-- Gives the anchor of a node that starts here a number, and reads the node. -/
def named (name : String) (node : NodeReader Node) : NodeReader Node := do
  let s ← get
  let number := s.anchors.length
  set { s with
    anchors := (name, number) :: s.anchors.filter fun a => a.1 != name
    ranks := s.ranks + 1 }
  let n ← node
  modify fun s' => { s' with named := NamedNode.insert ⟨number, s.ranks, n⟩ s'.named }
  return n

/-- The node that an alias stands for. -/
def aliasOf (name : String) : NodeReader Node := do
  match (← get).anchors.find? fun a => a.1 == name with
  | some (_, n) => return .alias n
  | none => failure

/-! ### Nodes -/

/-- Where a node stands: in a flow collection, in a block, or in a block mapping, where a
sequence need not be indented. -/
inductive Place where
  | flow
  | block
  | entry
  deriving DecidableEq

mutual

/-- A node; the properties alone are a node without characters. -/
def node : (fuel : Nat) → Place → NodeReader Node
  | 0, _ => failure
  | fuel + 1, place => do
    match ← peek with
    | some (.alias name) =>
      skip
      aliasOf name
    | _ =>
      let p ← properties
      match p.anchor with
      | none => content fuel place p
      | some name => named name (content fuel place p)

/-- What stands after the properties of a node. -/
def content : (fuel : Nat) → Place → Properties → NodeReader Node
  | 0, _, _ => failure
  | fuel + 1, place, p => do
    match ← peek with
    | some (.scalar style text) =>
      skip
      return .scalar p.tag style text
    | some .sequenceOpen =>
      skip
      return .sequence (← flowItems fuel true)
    | some .mappingOpen =>
      skip
      return .mapping (← flowEntries fuel true)
    | t =>
      if place = .entry ∧ t = some .dash then return .sequence (← looseItems fuel)
      else if place ≠ .flow ∧ t = some .blockSequence then
        skip
        return .sequence (← blockItems fuel)
      else if place ≠ .flow ∧ t = some .blockMapping then
        skip
        return .mapping (← blockEntries fuel)
      else if p.anchor.isSome || p.tag.isSome then return .scalar p.tag .plain ""
      else failure

/-- A node, or the node of no characters in front of one of the tokens `ends`. -/
def nodeUnless : (fuel : Nat) → Place → (ends : List Token) → NodeReader Node
  | 0, _, _ => failure
  | fuel + 1, place, ends => do
    if ← isNext ends then return emptyScalar else node fuel place

/-- The items of a block sequence up to its end. -/
def blockItems : (fuel : Nat) → NodeReader (List Node)
  | 0 => failure
  | fuel + 1 => do
    if ← accept .dash then
      let n ← nodeUnless fuel .block [.dash, .blockEnd]
      return n :: (← blockItems fuel)
    else
      expect .blockEnd
      return []

/-- The items of a sequence that stands at the column of the mapping around it. -/
def looseItems : (fuel : Nat) → NodeReader (List Node)
  | 0 => failure
  | fuel + 1 => do
    if ← accept .dash then
      let n ← nodeUnless fuel .block [.dash, .key, .value, .blockEnd]
      return n :: (← looseItems fuel)
    else return []

/-- The entries of a block mapping up to its end. -/
def blockEntries : (fuel : Nat) → NodeReader (List (Node × Node))
  | 0 => failure
  | fuel + 1 => do
    if ← accept .key then
      let k ← nodeUnless fuel .entry [.key, .value, .blockEnd]
      let v ← if ← accept .value then nodeUnless fuel .entry [.key, .value, .blockEnd]
        else pure emptyScalar
      return (k, v) :: (← blockEntries fuel)
    else
      expect .blockEnd
      return []

/-- The items of a flow sequence up to its end; in front of all but the first is a comma. A
lone key with its value is a mapping of one entry. -/
def flowItems : (fuel : Nat) → (first : Bool) → NodeReader (List Node)
  | 0, _ => failure
  | fuel + 1, first => do
    if ← accept .sequenceClose then return []
    if !first then expect .comma
    if ← accept .sequenceClose then return []
    let n ← if ← accept .key then
        let entry ← flowPair fuel
        pure (.mapping [entry])
      else node fuel .flow
    return n :: (← flowItems fuel false)

/-- The entry of a mapping that stands alone in a flow sequence. -/
def flowPair : (fuel : Nat) → NodeReader (Node × Node)
  | 0 => failure
  | fuel + 1 => do
    let k ← if ← isNext [.value, .comma, .sequenceClose] then do
        skip
        pure emptyScalar
      else node fuel .flow
    let v ← if ← accept .value then nodeUnless fuel .flow [.comma, .sequenceClose]
      else pure emptyScalar
    return (k, v)

/-- The entries of a flow mapping up to its end; in front of all but the first is a comma. -/
def flowEntries : (fuel : Nat) → (first : Bool) → NodeReader (List (Node × Node))
  | 0, _ => failure
  | fuel + 1, first => do
    if ← accept .mappingClose then return []
    if !first then expect .comma
    if ← accept .mappingClose then return []
    let entry ← if ← accept .key then do
        let k ← nodeUnless fuel .flow [.value, .comma, .mappingClose]
        let v ← if ← accept .value then nodeUnless fuel .flow [.comma, .mappingClose]
          else pure emptyScalar
        pure (k, v)
      else do
        let k ← node fuel .flow
        pure (k, emptyScalar)
    return entry :: (← flowEntries fuel false)

end

/-! ### Documents -/

/-- The handles that need no directive. -/
def defaultHandles : List (String × String) := [("!", "!"), ("!!", "tag:yaml.org,2002:")]

/-- Reads the directives in front of a document: one version at most, which has to be 1.1 or
1.2, and each handle once. Gives whether there was any. -/
def directives : (fuel : Nat) → (version : Bool) → NodeReader Bool
  | 0, _ => failure
  | fuel + 1, version => do
    match ← peek with
    | some (.version major minor) =>
      skip
      if version || major ≠ 1 || (minor ≠ 1 && minor ≠ 2) then failure
      let _ ← directives fuel true
      return true
    | some (.tagHandle handle start) =>
      skip
      if (← get).handles.any fun h => h.1 == handle then failure
      modify fun s => { s with handles := s.handles ++ [(handle, start)] }
      let _ ← directives fuel version
      return true
    | _ => return false

/-- The only document. Without directives it may start right away, but then not be empty. -/
def document (fuel : Nat) : NodeReader Node := do
  let directed ← directives fuel false
  modify fun s => { s with handles := s.handles ++ defaultHandles }
  let root ← if ← accept .documentStart then
      match ← peek with
      | none => pure emptyScalar
      | some (.version ..) => pure emptyScalar
      | some (.tagHandle ..) => pure emptyScalar
      | _ => nodeUnless fuel .block [.documentStart, .documentEnd]
    else if directed then failure
    else node fuel .block
  modify fun s => { s with rest := s.rest.dropWhile (· == .documentEnd) }
  if (← peek).isSome then failure
  return root

end NodeReader

/-- The document that a text holds. -/
def Document.read? (text : String) : Option Document := do
  let ts ← tokens? text
  let (root, s) ← (NodeReader.document (4 * ts.length + 4)).run { rest := ts }
  return ⟨root, s.named⟩

end Waymark.Yaml
