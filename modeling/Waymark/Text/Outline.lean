import Waymark.Text.Cut

/-!
# Outlines

The one-line text of a structured value in diagnostics: records with named
fields, optional values, lists and sets.
-/

namespace Waymark.Text.Outline

/-- The text in braces. -/
def braced (inner : String) : String := "\x7b" ++ inner ++ "\x7d"

/-- Each field as its name, a colon and its value. -/
def fieldTexts (fields : List (String × String)) : List String :=
  fields.map fun (name, value) => name ++ ": " ++ value

/-- A record whose fields are all shown. -/
def record (name : String) (fields : List (String × String)) : String :=
  name ++ " " ++ braced (" " ++ joined ", " (fieldTexts fields) ++ " ")

/-- A record of which only the given fields are shown. -/
def openRecord (name : String) (fields : List (String × String)) : String :=
  name ++ " " ++ braced (" " ++ joined ", " (fieldTexts fields ++ [".."]) ++ " ")

def option : Option String → String
  | none => "None"
  | some s => "Some(" ++ s ++ ")"

def list (items : List String) : String := "[" ++ joined ", " items ++ "]"

def set (items : List String) : String := braced (joined ", " items)

end Waymark.Text.Outline
