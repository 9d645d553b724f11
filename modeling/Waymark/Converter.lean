import Waymark.Param.Value
import Waymark.Text.Outline

/-!
# Converters

A converter ties the text of a placeholder to a typed value: a pattern that
says which texts it takes, a decoder for those texts, and an encoder that
writes a value in a form the pattern takes.

| name    | texts                              | value  |
|---------|------------------------------------|--------|
| `str`   | one segment, not empty             | text   |
| `path`  | any text of one line               | text   |
| `int`   | digits                             | int    |
| `float` | digits, or digits around a point   | float  |
| `uuid`  | the hyphenated form, small letters | uuid   |

For each of them decoding undoes encoding on the values that it encodes.
-/

namespace Waymark

/-- Why a value cannot be converted. -/
inductive ConversionFault where
  | empty
  | slash
  | outOfRange
  | notInteger
  | negativeInteger
  | notDecimal
  | notFinite
  | negativeNumber
  | notUuid
  | other (reason : String)
  deriving DecidableEq

def ConversionFault.reason : ConversionFault → String
  | .empty => "must not be empty"
  | .slash => "may not contain '/'"
  | .outOfRange => "out of range for i64"
  | .notInteger => "not an integer"
  | .negativeInteger => "negative integers are not supported"
  | .notDecimal => "not a decimal number"
  | .notFinite => "must be finite"
  | .negativeNumber => "negative numbers are not supported"
  | .notUuid => "not a UUID"
  | .other reason => reason

/-- A text or value that a converter refuses. -/
structure ConversionError where
  converter : String
  value : String
  fault : ConversionFault
  deriving DecidableEq

def ConversionError.message (e : ConversionError) : String :=
  "cannot convert " ++ Text.quoted e.value ++ " with the '" ++ e.converter ++ "' converter: " ++
    e.fault.reason

structure Converter where
  /-- The texts the converter takes, in the notation of patterns. -/
  pattern : String
  decode : String → Except ConversionError Value
  encode : Value → Except ConversionError String

namespace Converter

/-! ## Segments and paths -/

def str : Converter where
  pattern := "[^/]+"
  decode raw := .ok (.str raw)
  encode value :=
    let text := value.text
    if text.isEmpty then .error ⟨"str", text, .empty⟩
    else if text.toList.contains '/' then .error ⟨"str", text, .slash⟩
    else .ok text

def path : Converter where
  pattern := ".*"
  decode raw := .ok (.str raw)
  encode value := .ok value.text

/-! ## Numbers -/

/-- The whole number a value stands for. -/
def intOf : Value → Except ConversionError Int64
  | .int n => .ok n
  | .str s =>
    match Text.readInt64? s with
    | some n => .ok (Int64.ofInt n)
    | none => .error ⟨"int", s, .notInteger⟩
  | other => .error ⟨"int", other.text, .notInteger⟩

def int : Converter where
  pattern := "[0-9]+"
  decode raw :=
    match Text.readInt64? raw with
    | some n => .ok (.int (Int64.ofInt n))
    | none => .error ⟨"int", raw, .outOfRange⟩
  encode value := do
    let n ← intOf value
    if n < 0 then throw ⟨"int", Value.intText n, .negativeInteger⟩
    return Value.intText n

/-- The binary number a value stands for; whole numbers beyond 53 bits are rounded. -/
def floatOf : Value → Except ConversionError Binary64
  | .float x => .ok x
  | .int n => .ok (.ofInt n.toInt)
  | .str s =>
    match Binary64.read? s with
    | some x => .ok x
    | none => .error ⟨"float", s, .notDecimal⟩
  | other => .error ⟨"float", other.text, .notDecimal⟩

def float : Converter where
  pattern := "[0-9]+(?:\\.[0-9]+)?"
  decode raw :=
    match Binary64.read? raw with
    | some x => .ok (.float x)
    | none => .error ⟨"float", raw, .notDecimal⟩
  encode value := do
    let x ← floatOf value
    if !x.isFinite then throw ⟨"float", x.text, .notFinite⟩
    if x.isNegative then throw ⟨"float", x.text, .negativeNumber⟩
    -- a zero is written without its sign
    return (if x.isZero then Binary64.zero else x).text

/-! ## Identifiers -/

def uuidOf : Value → Except ConversionError Uuid
  | .uuid u => .ok u
  | .str s =>
    match Uuid.read? s with
    | some u => .ok u
    | none => .error ⟨"uuid", s, .notUuid⟩
  | other => .error ⟨"uuid", other.text, .notUuid⟩

def uuid : Converter where
  pattern := "[0-9a-f]\x7b8\x7d-[0-9a-f]\x7b4\x7d-[0-9a-f]\x7b4\x7d-[0-9a-f]\x7b4\x7d-" ++
    "[0-9a-f]\x7b12\x7d"
  decode raw :=
    match Uuid.read? raw with
    | some u => .ok (.uuid u)
    | none => .error ⟨"uuid", raw, .notUuid⟩
  encode value := do return (← uuidOf value).text

end Converter

/-! ## Registries -/

/-- The converters that templates may name. -/
structure Registry where
  converters : List (String × Converter)

namespace Registry

def empty : Registry := ⟨[]⟩

/-- Registers a converter, in place of one of the same name. -/
def register (r : Registry) (name : String) (c : Converter) : Registry :=
  ⟨(name, c) :: r.converters.filter fun e => e.1 != name⟩

def get? (r : Registry) (name : String) : Option Converter :=
  (r.converters.find? fun e => e.1 == name).map (·.2)

def contains (r : Registry) (name : String) : Bool := (r.get? name).isSome

/-- The registered names in order. -/
def names (r : Registry) : List String := (r.converters.map (·.1)).mergeSort (· ≤ ·)

/-- The converters that every table may use. -/
def builtin : Registry :=
  [("str", Converter.str), ("path", Converter.path), ("int", Converter.int),
    ("float", Converter.float), ("uuid", Converter.uuid)].foldl
    (fun r e => r.register e.1 e.2) empty

instance : Inhabited Registry := ⟨builtin⟩

def outline (r : Registry) : String :=
  Text.Outline.record "ConverterRegistry"
    [("converters", Text.Outline.list (r.names.map Text.quoted))]

end Registry

end Waymark
