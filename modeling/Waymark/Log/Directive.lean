import Waymark.Log.Event
import Waymark.Log.FieldValue
import Waymark.Text.Utf8

/-!
# Filter directives

A directive gives a level to a part of the program: `target[span{fields}]=level`,
in which every part may be missing. A word alone is a level if it is the name
of one, and a target with all its events otherwise.
-/

namespace Waymark.Log

/-- The least important level that is shown; `none` shows nothing. -/
abbrev Threshold := Option Level

namespace Threshold

def shows (t : Threshold) (level : Level) : Bool := t.any fun least => least.rank ≤ level.rank

/-- The one of two thresholds that shows more. -/
def wider (s t : Threshold) : Threshold :=
  match s, t with
  | none, t => t
  | s, none => s
  | some a, some b => if a.rank ≤ b.rank then some a else some b

/-- The threshold of a number from zero to five. -/
def ofNat? : Nat → Option Threshold
  | 0 => some none
  | 1 => some (some .error)
  | 2 => some (some .warn)
  | 3 => some (some .info)
  | 4 => some (some .debug)
  | 5 => some (some .trace)
  | _ => none

/-- The threshold of a name or a number. -/
def read? (s : String) : Option Threshold :=
  match Text.readUnsigned? 10 Text.word64Max s.toList with
  | some n => ofNat? n
  | none =>
    match Text.lower s with
    | "off" => some none
    | "error" => some (some .error)
    | "warn" => some (some .warn)
    | "info" => some (some .info)
    | "debug" => some (some .debug)
    | "trace" => some (some .trace)
    | _ => none

end Threshold

/-- A field that a directive asks for, with the value it has to have. -/
structure FieldPattern where
  name : String
  value : Option String
  deriving DecidableEq

structure Directive where
  /-- What the targets of the events start with. -/
  target : Option String
  span : Option String
  fields : List FieldPattern
  threshold : Threshold
  deriving DecidableEq

namespace Directive

/-- Whether the directive can be decided by an event alone. -/
def isStatic (d : Directive) : Bool := d.span.isNone && d.fields.all (·.value.isNone)

def hasValues (d : Directive) : Bool := d.fields.any (·.value.isSome)

/-- The level alone, for the whole program. -/
def ofThreshold (t : Threshold) : Directive := ⟨none, none, [], t⟩

/-! ## Reading -/

/-- The part of a text between two of its bytes. -/
def between? (text : List Char) (start stop : Nat) : Option (List Char) := do
  let (_, rest) ← Text.cutBytes? start text
  let (part, _) ← Text.cutBytes? (stop - start) rest
  return part

/-- The part of a text from one of its bytes on. -/
def from? (text : List Char) (start : Nat) : Option (List Char) :=
  (Text.cutBytes? start text).map (·.2)

/-- A field, with a value after an equals sign. -/
def field? (cs : List Char) : Option FieldPattern :=
  if cs.isEmpty then none
  else match Text.pieces '=' cs with
    | name :: value :: _ =>
      if FieldValue.isReadable value then some ⟨String.ofList name, some (String.ofList value)⟩
      else none
    | _ => some ⟨String.ofList cs, none⟩

/-- What a directive is in the middle of. The numbers are those of the first byte. -/
inductive Part where
  /-- A level, or a target. -/
  | word
  | span (start : Nat)
  | field (start : Nat)
  | fieldsEnd
  | spanEnd
  | level (start : Nat)

/-- The part that a first character starts. -/
def Part.ofFirst? (c : Char) : Option Part :=
  if c = '[' then some (.span c.utf8Size)
  else if "-:_".toList.contains c || Unicode.isAlphanumeric c then some .word
  else none

/-- The directive so far and its part after the character `c`, which is byte number `i`. -/
def step? (text : List Char) (d : Directive) (part : Part) (i : Nat) (c : Char) :
    Option (Directive × Part) :=
  let next := i + c.utf8Size
  match part with
  | .word =>
    if c ≠ '=' ∧ c ≠ '[' then some (d, part)
    else (between? text 0 i).map fun target =>
      ({ d with target := some (String.ofList target) },
        if c = '=' then .level next else .span next)
  | .span start =>
    if c ≠ ']' ∧ c ≠ '\x7b' then some (d, part)
    else (between? text start i).map fun name =>
      if c = ']' then ({ d with span := some (String.ofList name) }, .spanEnd)
      else if name.isEmpty then (d, .field next)
      else ({ d with span := some (String.ofList name) }, .field next)
  | .field start =>
    if c ≠ '\x7d' then some (d, part)
    else do
      let field ← field? (← between? text start i)
      return ({ d with fields := d.fields ++ [field] }, .fieldsEnd)
  | .fieldsEnd => if c = ']' then some (d, .spanEnd) else none
  | .spanEnd => if c = '=' then some (d, .level next) else none
  | .level _ => some (d, part)

/-- The directive at its end. A word alone is the whole text, and no level shows everything. -/
def finish? (text : List Char) (d : Directive) : Part → Option Directive
  | .word =>
    match Threshold.read? (String.ofList text) with
    | some t => some (ofThreshold t)
    | none => some { d with target := some (String.ofList text) }
  | .level start => do
    let level ← from? text start
    if level.isEmpty then return d
    else return { d with threshold := ← Threshold.read? (String.ofList level) }
  | .spanEnd => some d
  | _ => none

/-- Reads the characters from byte number `i` on. -/
def run? (text : List Char) (d : Directive) (part : Part) (i : Nat) :
    List Char → Option Directive
  | [] => finish? text d part
  | c :: cs => do
    let (d, part) ← step? text d part i c
    run? text d part (i + c.utf8Size) cs

/-- A directive. A list of them is cut at every comma, so there is none in it. Where its parts
are is found with the blanks around the text left out, but the parts are cut out of the text
with its blanks, so that blanks in front move every part. -/
def read? (s : String) : Option Directive :=
  match (Text.trim s).toList with
  | [] => none
  | c :: cs => do
    run? s.toList (.ofThreshold (some .trace)) (← Part.ofFirst? c) c.utf8Size cs

end Directive

end Waymark.Log
