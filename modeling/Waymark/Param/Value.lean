import Waymark.Json.Printer
import Waymark.Text.Integer
import Waymark.Text.Quoted
import Waymark.Uuid

/-!
# Parameter values

What a placeholder stands for once its text is decoded: a text, a whole number
of 64 bits, a binary number, or a UUID.
-/

namespace Waymark

inductive Value where
  | str (text : String)
  | int (value : Int64)
  | float (value : Binary64)
  | uuid (value : Uuid)
  deriving DecidableEq

namespace Value

/-- A whole number in decimal. -/
def intText (n : Int64) : String := String.ofList (Json.renderInt n.toInt)

/-- The value as it is shown in texts and paths. -/
def text : Value → String
  | .str s => s
  | .int n => intText n
  | .float x => x.text
  | .uuid u => u.text

def str? : Value → Option String
  | .str s => some s
  | _ => none

def int? : Value → Option Int64
  | .int n => some n
  | _ => none

def float? : Value → Option Binary64
  | .float x => some x
  | _ => none

def uuid? : Value → Option Uuid
  | .uuid u => some u
  | _ => none

/-- Equality of values: numbers are equal as numbers, so a not-a-number equals nothing. -/
def same : Value → Value → Bool
  | .float x, .float y => x.same y
  | a, b => a = b

def toJson : Value → Json
  | .str s => .str s
  | .int n => .int n.toInt
  | .float x => .float x
  | .uuid u => .str u.text

/-- The value in diagnostics, with its kind. -/
def outline : Value → String
  | .str s => "Str(" ++ Text.quoted s ++ ")"
  | .int n => "Int(" ++ intText n ++ ")"
  | .float x => "Float(" ++ x.outline ++ ")"
  | .uuid u => "Uuid(" ++ u.text ++ ")"

end Value

end Waymark
