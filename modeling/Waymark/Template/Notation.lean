import Waymark.Text.Ascii

/-!
# The notation of templates

A template is text with holes. A hole is `{name}` or `{name:kind}`, where both
are ASCII names and the kind names a converter, `str` if it is left out. A
brace that starts no hole is text like any other, so every text is a template:
`parts` reads it from left to right, and `spelled` of the parts is the text
again with the kinds erased.
-/

namespace Waymark.Template

/-- A part of a written template. -/
inductive Part where
  | literal (text : List Char)
  | hole (name kind : List Char)
  deriving DecidableEq

/-- The kind of a hole that does not give one. -/
def defaultKind : List Char := "str".toList

def isNameStart (c : Char) : Bool := Text.isLetter c || c == '_'

def isNameChar (c : Char) : Bool := isNameStart c || Text.isDigit c

/-- The name at the front of a text, if there is one, and what follows it. -/
def readName? : List Char → Option (List Char × List Char)
  | [] => none
  | c :: cs =>
    if isNameStart c then some (c :: cs.takeWhile isNameChar, cs.dropWhile isNameChar)
    else none

/-- A hole after its opening brace: its name, its kind and what follows its closing brace. -/
def readHole? (cs : List Char) : Option (List Char × List Char × List Char) :=
  match readName? cs with
  | some (name, '\x7d' :: rest) => some (name, defaultKind, rest)
  | some (name, ':' :: rest) =>
    match readName? rest with
    | some (kind, '\x7d' :: rest) => some (name, kind, rest)
    | _ => none
  | _ => none

theorem readName?_append {cs name rest : List Char} (h : readName? cs = some (name, rest)) :
    cs = name ++ rest := by
  cases cs with
  | nil => simp [readName?] at h
  | cons c cs =>
    simp only [readName?] at h
    split at h
    · simp only [Option.some.injEq, Prod.mk.injEq] at h
      simp [← h.1, ← h.2]
    · simp at h

theorem readHole?_length {cs name kind rest : List Char}
    (h : readHole? cs = some (name, kind, rest)) : rest.length < cs.length := by
  unfold readHole? at h
  split at h
  · rename_i n r hn
    simp only [Option.some.injEq, Prod.mk.injEq] at h
    rw [readName?_append hn, ← h.2.2]
    simp
    omega
  · rename_i n r hn
    split at h
    · rename_i k r' hk
      simp only [Option.some.injEq, Prod.mk.injEq] at h
      rw [readName?_append hn, readName?_append hk, ← h.2.2]
      simp
      omega
    · simp at h
  · simp at h

/-- Puts a character in front of parts; text that is already in front takes it. -/
def consChar (c : Char) : List Part → List Part
  | .literal text :: ps => .literal (c :: text) :: ps
  | ps => .literal [c] :: ps

/-- The parts of a written template; neighbouring characters make one literal. -/
def parts : List Char → List Part
  | [] => []
  | c :: cs =>
    if c = '\x7b' then
      match _h : readHole? cs with
      | some (name, kind, rest) => .hole name kind :: parts rest
      | none => consChar c (parts cs)
    else consChar c (parts cs)
  termination_by cs => cs.length
  decreasing_by
    · have := readHole?_length _h
      simp
      omega
    · simp
    · simp

/-- A hole without its kind. -/
def braced (name : List Char) : List Char := '\x7b' :: name ++ ['\x7d']

/-- A part written without its kind. -/
def Part.spelled : Part → List Char
  | .literal text => text
  | .hole name _ => braced name

end Waymark.Template
