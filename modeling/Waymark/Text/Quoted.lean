import Waymark.Text.Ascii
import Waymark.Unicode.Mark
import Waymark.Unicode.Printable

/-!
# Quoted texts

A text in double quotes for diagnostics. Quotes and backslashes are escaped,
the usual controls have letters, and a character that would not be seen, or
would attach to its neighbour, is written by its code point. What a reader
sees between the quotes therefore determines the text.
-/

namespace Waymark.Text

/-- The written form of one character inside quotes. -/
def quotedChar (c : Char) : List Char :=
  if c = '\x00' then ['\\', '0']
  else if c = '\t' then ['\\', 't']
  else if c = '\r' then ['\\', 'r']
  else if c = '\n' then ['\\', 'n']
  else if c = '\\' then ['\\', '\\']
  else if c = '"' then ['\\', '"']
  else if Unicode.isPrintable c && !Unicode.isExtending c then [c]
  else ['\\', 'u', '\x7b'] ++ Nat.toDigits 16 c.toNat ++ ['\x7d']

/-- A text in double quotes. -/
def quoted (s : String) : String :=
  String.ofList ('"' :: s.toList.flatMap quotedChar ++ ['"'])

end Waymark.Text
