import Waymark.Pattern.Basic
import Waymark.Number.Decimal

/-!
# Written patterns

The notation of patterns: characters, `.` for any character of a line, sets in
brackets, groups in parentheses, choices with `|`, and repetitions with `*`,
`+`, `?` and counts in braces, each reluctant when `?` follows. A backslash
takes the sign after it literally.

Of the wider notation that engines know, these parts are not read, and a text
that uses them is refused: named classes (`\d`, `\w`, `\p`), sets in sets and
the operations `&&`, `--` and `~~` on sets, flags such as `(?i)`, named groups,
anchors (`^`, `$`) and the borders of words (`\b`, `\<`, `\>`). A pattern is a
part of a template and always matches in the place that the template gives it.
-/

namespace Waymark.Pattern

/-- The characters that mean something in a pattern and are escaped in a literal text. -/
def isMeta (c : Char) : Bool := "\\.+*?()|[]\x7b\x7d^$#&-~".toList.contains c

/-- A literal text in the notation of patterns. -/
def escape (cs : List Char) : List Char :=
  cs.flatMap fun c => if isMeta c then ['\\', c] else [c]

/-- The character that a backslash and the given character stand for. -/
def escaped? (c : Char) : Option Char :=
  match c with
  | 'n' => some '\n'
  | 't' => some '\t'
  | 'r' => some '\r'
  | '<' => none
  | '>' => none
  | _ => if Text.isLetter c || Text.isDigit c || c.toNat ≥ 0x80 then none else some c

/-- One end of a range in a set, and what follows it. -/
def readSetChar? : List Char → Option (Char × List Char)
  | '\\' :: c :: rest => (escaped? c).map fun c => (c, rest)
  | c :: rest => if c = '\\' || c = '[' then none else some (c, rest)
  | [] => none

/-- Whether an operation on sets stands next. -/
def opensOperation : List Char → Bool
  | '&' :: '&' :: _ => true
  | '-' :: '-' :: _ => true
  | '~' :: '~' :: _ => true
  | _ => false

/-- The ranges of a set up to its closing bracket. -/
def readRanges? : (fuel : Nat) → (first : Bool) → List Char →
    Option (List (Char × Char) × List Char)
  | 0, _, _ => none
  | fuel + 1, first, cs =>
    if opensOperation cs then none else
    match cs with
    | ']' :: rest =>
      if first then do
        let (more, rest) ← readRanges? fuel false rest
        return ((']', ']') :: more, rest)
      else some ([], rest)
    | _ => do
      let (low, rest) ← readSetChar? cs
      if opensOperation rest then none
      match rest with
      | '-' :: ']' :: _ =>
        let (more, rest) ← readRanges? fuel false rest
        return ((low, low) :: more, rest)
      | '-' :: rest =>
        let (high, rest) ← readSetChar? rest
        if high < low then none
        let (more, rest) ← readRanges? fuel false rest
        return ((low, high) :: more, rest)
      | _ =>
        let (more, rest) ← readRanges? fuel false rest
        return ((low, low) :: more, rest)

/-- A set after its opening bracket. -/
def readSet? (fuel : Nat) : List Char → Option (CharSet × List Char)
  | '^' :: rest => (readRanges? fuel true rest).map fun (ranges, rest) => (⟨true, ranges⟩, rest)
  | rest => (readRanges? fuel true rest).map fun (ranges, rest) => (⟨false, ranges⟩, rest)

/-- The bounds of a count in braces, after the opening brace. -/
def readCount? (cs : List Char) : Option (Nat × Option Nat × List Char) := do
  let (low, rest) := Decimal.spanDigits cs
  if low.isEmpty then none
  let least := Decimal.digitsValue low
  match rest with
  | '\x7d' :: rest => return (least, some least, rest)
  | ',' :: '\x7d' :: rest => return (least, none, rest)
  | ',' :: rest =>
    let (high, rest) := Decimal.spanDigits rest
    match rest with
    | '\x7d' :: rest =>
      let most := Decimal.digitsValue high
      if high.isEmpty || most < least then none else return (least, some most, rest)
    | _ => none
  | _ => none

/-- The bounds of a repetition sign, and what follows it; `none` when the text does not go on
with a repetition, `some none` when it goes on with a faulty one. -/
def readBounds? : List Char → Option (Option (Nat × Option Nat × List Char))
  | '*' :: rest => some (some (0, none, rest))
  | '+' :: rest => some (some (1, none, rest))
  | '?' :: rest => some (some (0, some 1, rest))
  | '\x7b' :: rest => some (readCount? rest)
  | _ => none

/-- A pattern with the repetition signs that follow it. -/
def readRepetitions? : (fuel : Nat) → Pattern → List Char → Option (Pattern × List Char)
  | 0, _, _ => none
  | fuel + 1, body, cs =>
    match readBounds? cs with
    | none => some (body, cs)
    | some none => none
    | some (some (least, most, '?' :: rest)) =>
      readRepetitions? fuel (.rep body least most false) rest
    | some (some (least, most, rest)) => readRepetitions? fuel (.rep body least most true) rest

/-- What follows the opening parenthesis of a group: nothing, or marks that make no difference
to what it matches. -/
def skipGroupMark? : List Char → Option (List Char)
  | '?' :: ':' :: rest => some rest
  | '?' :: _ => none
  | rest => some rest

mutual

/-- A choice, up to the end of the text or a closing parenthesis. -/
def readChoice? : (fuel : Nat) → List Char → Option (Pattern × List Char)
  | 0, _ => none
  | fuel + 1, cs => do
    let (left, rest) ← readSequence? fuel cs
    match rest with
    | '|' :: rest =>
      let (right, rest) ← readChoice? fuel rest
      return (.choice left right, rest)
    | _ => return (left, rest)

/-- A sequence, up to the end of the text, a bar or a closing parenthesis. -/
def readSequence? : (fuel : Nat) → List Char → Option (Pattern × List Char)
  | 0, _ => none
  | fuel + 1, cs =>
    match cs with
    | [] => some (.empty, [])
    | '|' :: _ => some (.empty, cs)
    | ')' :: _ => some (.empty, cs)
    | _ => do
      let (atom, rest) ← readAtom? fuel cs
      let (item, rest) ← readRepetitions? fuel atom rest
      let (others, rest) ← readSequence? fuel rest
      return (if others = .empty then item else .seq item others, rest)

/-- A single character, set or group. -/
def readAtom? : (fuel : Nat) → List Char → Option (Pattern × List Char)
  | 0, _ => none
  | fuel + 1, cs =>
    match cs with
    | '.' :: rest => some (.char .anyInLine, rest)
    | '[' :: rest => (readSet? fuel rest).map fun (set, rest) => (.char set, rest)
    | '(' :: rest => do
      let (body, rest) ← readChoice? fuel (← skipGroupMark? rest)
      match rest with
      | ')' :: rest => return (body, rest)
      | _ => none
    | '\\' :: c :: rest => (escaped? c).map fun c => (.char (.one c), rest)
    | c :: rest =>
      if "\\*+?\x7b^$".toList.contains c then none else some (.char (.one c), rest)
    | [] => none

end

/-- The pattern that a text writes. -/
def read? (text : String) : Option Pattern := do
  let cs := text.toList
  let (p, rest) ← readChoice? (4 * cs.length + 4) cs
  if rest.isEmpty then return p else none

end Waymark.Pattern
