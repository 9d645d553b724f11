import Waymark.Number.Decimal
import Waymark.Pattern.Reader
import Waymark.Text.Blank
import Waymark.Unicode.Alphanumeric

/-!
# Values of fields

A directive may ask a field for a value, written as a number or as an
expression that the value has to match. The values of fields belong to spans
and never decide about an event, so all that counts here is which expressions
are well formed.

An expression has more notation than the pattern of a converter: marks and
names for groups, anchors, and sets that hold other sets. Two things are well
formed and refused all the same: the edges of words of any script, and what can
match a part of a character where the `u` mark is off. A value ends at a comma,
a closing brace or an equals sign, so nothing that needs one of these can be
written, and an opening brace is never closed.
-/

namespace Waymark.Log.FieldValue

/-- The marks that hold at a place. -/
structure Marks where
  /-- Whether blanks and comments count for nothing. -/
  spaced : Bool := false
  /-- Whether characters are those of Unicode. -/
  wide : Bool := true

namespace Marks

/-- The marks after those in `on` are set and those in `off` are cleared. -/
def change (m : Marks) (on off : List Char) : Marks :=
  let set (c : Char) (old : Bool) : Bool :=
    if on.contains c then true else if off.contains c then false else old
  ⟨set 'x' m.spaced, set 'u' m.wide⟩

end Marks

/-- What follows the blanks and comments at the front. -/
def dropSpace : (inComment : Bool) → List Char → List Char
  | _, [] => []
  | true, c :: cs => dropSpace (c != '\n') cs
  | false, c :: cs =>
    if Text.isBlank c then dropSpace false cs
    else if c = '#' then dropSpace true cs
    else c :: cs

/-- What follows what counts for nothing at the front. -/
def skip (m : Marks) (cs : List Char) : List Char := if m.spaced then dropSpace false cs else cs

/-! ## Escapes -/

/-- What a sign or an escape stands for. -/
inductive Atom where
  | char (c : Char)
  | set
  | anchor
  deriving DecidableEq

/-- The character whose number the first `digits` characters write. -/
def numbered? (m : Marks) (digits : Nat) (cs : List Char) : Option (Atom × List Char) := do
  let n ← Text.readDigitRun? 16 (cs.take digits)
  if cs.length < digits || !n.isValidChar || (!m.wide && digits == 2 && 0x80 ≤ n) then none
  return (.char (Char.ofNat n), cs.drop digits)

/-- The characters that may be escaped without need. -/
def isPlainEscape (c : Char) : Bool :=
  c.toNat < 0x80 && !Text.isLetter c && !Text.isDigit c && c != '<' && c != '>'

/-- What an escape stands for, after its backslash, and what follows it. -/
def escape? (m : Marks) : List Char → Option (Atom × List Char)
  | [] => none
  | c :: cs =>
    if c = 'x' then numbered? m 2 cs
    else if c = 'u' then numbered? m 4 cs
    else if c = 'U' then numbered? m 8 cs
    else if c = 'p' ∨ c = 'P' then
      match skip m cs with
      | category :: rest =>
        if m.wide && "CLMNPSZclmnpsz".toList.contains category then some (.set, rest) else none
      | [] => none
    else if "dsw".toList.contains c then some (.set, cs)
    else if "DSW".toList.contains c then if m.wide then some (.set, cs) else none
    else if "aftnrv".toList.contains c then some (.char (control c), cs)
    else if c = 'A' ∨ c = 'z' then some (.anchor, cs)
    else if "bB<>".toList.contains c then if m.wide then none else some (.anchor, cs)
    else if isPlainEscape c then some (.char c, cs)
    else none
where
  control : Char → Char
    | 'a' => '\x07'
    | 'f' => '\x0c'
    | 't' => '\t'
    | 'n' => '\n'
    | 'r' => '\r'
    | _ => '\x0b'

/-! ## Sets -/

/-- The names of sets of ASCII characters. -/
def setNames : List String :=
  ["alnum", "alpha", "ascii", "blank", "cntrl", "digit", "graph", "lower", "print", "punct",
    "space", "upper", "word", "xdigit"]

/-- What follows a named set such as `[:alpha:]`, after its bracket. -/
def afterNamedSet? (cs : List Char) : Option (List Char) := do
  let rest ← Text.after? [':'] cs
  let rest := (Text.after? ['^'] rest).getD rest
  let (name, rest) ← Text.cutAt? ':' rest
  if setNames.contains (String.ofList name) then Text.after? [']'] rest else none

/-- Skips what a set may start with after its bracket: a caret, and then either dashes or a
bracket, which stand for themselves. -/
def openSet? (m : Marks) (cs : List Char) : Option (List Char) :=
  let cs := skip m cs
  match cs with
  | '^' :: rest => if m.wide then some (lead (skip m rest)) else none
  | _ => some (lead cs)
where
  lead (cs : List Char) : List Char :=
    match cs with
    | ']' :: rest => skip m rest
    | _ => dashes cs
  dashes (cs : List Char) : List Char :=
    cs.dropWhile fun c => c == '-' || (m.spaced && Text.isBlank c)

/-- A member of a set, and what follows it. -/
def member? (m : Marks) : List Char → Option (Atom × List Char)
  | [] => none
  | '\\' :: cs => (escape? m cs).filter fun e => e.1 != .anchor
  | c :: cs => if m.wide || c.toNat < 0x80 then some (.char c, cs) else none

/-- Whether a dash at the front makes a range of the member before it. -/
def startsRange (m : Marks) : List Char → Bool
  | '-' :: cs => match skip m cs with
    | c :: _ => c != ']' && c != '-'
    | [] => true
  | _ => false

/-- A member of a set or a range of them: what follows it. -/
def afterMembers? (m : Marks) (cs : List Char) : Option (List Char) := do
  let (low, rest) ← member? m cs
  let rest := skip m rest
  if startsRange m rest then
    let (high, rest) ← member? m (skip m (rest.drop 1))
    match low, high with
    | .char a, .char b => if a ≤ b then return rest else none
    | _, _ => none
  else return rest

/-- What follows a set of which `depth` brackets are open. -/
def afterSet? (m : Marks) : (fuel depth : Nat) → List Char → Option (List Char)
  | 0, _, _ => none
  | fuel + 1, depth, cs =>
    match skip m cs with
    | [] => none
    | '[' :: rest =>
      match afterNamedSet? rest with
      | some rest => afterSet? m fuel depth rest
      | none => (openSet? m rest).bind (afterSet? m fuel (depth + 1))
    | ']' :: rest => if depth = 1 then some rest else afterSet? m fuel (depth - 1) rest
    | '&' :: '&' :: rest => afterSet? m fuel depth rest
    | '-' :: '-' :: rest => afterSet? m fuel depth rest
    | '~' :: '~' :: rest => afterSet? m fuel depth rest
    | cs => (afterMembers? m cs).bind (afterSet? m fuel depth)

/-! ## Groups -/

/-- An expression that has been read in part. -/
structure Scan where
  marks : Marks := {}
  /-- The marks around each open group, the innermost first. -/
  around : List Marks := []
  /-- The names of groups. -/
  names : List (List Char) := []
  /-- Whether something stands here that can be repeated. -/
  repeatable : Bool := false

/-- A group that starts here with those marks. -/
def Scan.enter (s : Scan) (marks : Marks) : Scan :=
  { s with marks := marks, around := s.marks :: s.around, repeatable := false }

/-- Whether a text may be the name of a group. -/
def isGroupName (name : List Char) : Bool :=
  let starts (c : Char) : Bool := c == '_' || (Unicode.isAlphanumeric c && !Text.isDigit c)
  let continues (c : Char) : Bool := c == '_' || "[].".toList.contains c || Unicode.isAlphanumeric c
  name.head?.any starts && name.all continues

/-- The named group after its opening angle. -/
def namedGroup? (s : Scan) (cs : List Char) : Option (Scan × List Char) := do
  let (name, rest) ← Text.cutAt? '>' cs
  if !isGroupName name || s.names.contains name then none
  return ({ s with names := name :: s.names }.enter s.marks, rest)

/-- Marks after a question mark. They hold in a group that starts here or, if they are closed
right away, for the rest of the group around them. -/
def marked? (s : Scan) (cs : List Char) : Option (Scan × List Char) := do
  let isEnd (c : Char) : Bool := c == ':' || c == ')'
  let marks := cs.takeWhile (!isEnd ·)
  let on := marks.takeWhile (· != '-')
  let off := marks.drop (on.length + 1)
  if !(marks.all "imsUuRx-".toList.contains) || !decide marks.Nodup ||
      marks.getLast? == some '-' then none
  let changed := s.marks.change on off
  match cs.drop marks.length with
  | ':' :: rest => return (s.enter changed, rest)
  | ')' :: rest =>
    if marks.isEmpty then none
    else return ({ s with marks := changed, repeatable := false }, rest)
  | _ => none

/-- A group after its parenthesis. -/
def group? (s : Scan) (cs : List Char) : Option (Scan × List Char) :=
  match skip s.marks cs with
  | '?' :: 'P' :: '<' :: rest => namedGroup? s rest
  | '?' :: '<' :: rest => namedGroup? s rest
  | '?' :: rest => marked? s rest
  | rest => some (s.enter s.marks, rest)

/-! ## Expressions -/

/-- The scan after one sign, set or escape that `c` starts, and what follows it. -/
def step? (s : Scan) (c : Char) (cs : List Char) : Option (Scan × List Char) :=
  let done := { s with repeatable := true }
  match c with
  | '(' => group? s cs
  | ')' => match s.around with
    | marks :: around => some ({ done with marks := marks, around := around }, cs)
    | [] => none
  | '|' => some ({ s with repeatable := false }, cs)
  | '[' => (openSet? s.marks cs).bind fun cs =>
      (afterSet? s.marks (cs.length + 1) 1 cs).map fun rest => (done, rest)
  | '\\' => (escape? s.marks cs).map fun (_, rest) => (done, rest)
  | '.' => if s.marks.wide then some (done, cs) else none
  | '\x7b' => none
  | _ =>
    if c ≠ '?' ∧ c ≠ '*' ∧ c ≠ '+' then some (done, cs)
    else if s.repeatable then some (done, (Text.after? ['?'] cs).getD cs)
    else none

/-- Whether the rest of an expression is well formed. -/
def isScanned : (fuel : Nat) → Scan → List Char → Bool
  | 0, _, _ => false
  | fuel + 1, s, cs =>
    match skip s.marks cs with
    | [] => s.around.isEmpty
    | c :: rest => match step? s c rest with
      | some (s, rest) => isScanned fuel s rest
      | none => false

def isExpression (cs : List Char) : Bool := isScanned (cs.length + 1) {} cs

/-- Whether a field can be asked for the value that a text writes. Some numbers, such as `+1`,
are no expressions. -/
def isReadable (cs : List Char) : Bool :=
  (Binary64.read? (String.ofList cs)).isSome || isExpression cs

end Waymark.Log.FieldValue
