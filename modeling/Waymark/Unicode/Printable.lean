import Waymark.Unicode.Assignment

/-!
# Printable characters

The characters that show when a text is printed. No mark of their own have the
code points without a character, controls, format characters, the separators
other than the space, the code points for private use, and the characters that
are ignored where they cannot be shown.
-/

namespace Waymark.Unicode

/-- The assigned code points beyond ASCII that do not show. -/
def invisibleRows : List String :=
  ["7F-A0 AD 34F 600-605 61C 6DD 70F 890-891 8E2 115F-1160 1680 17B4-17B5 180B-180F",
    "2000-200F 2028-202F 205F-2064 2066-206F 3000 3164 E000-F8FF FE00-FE0F FEFF FFA0",
    "FFF9-FFFB 110BD 110CD 13430-1343F 1BCA0-1BCA3 1D173-1D17A E0001 E0020-E007F",
    "E0100-E01EF F0000-FFFFD 100000-10FFFD"]

private def invisible : Ranges := readRanges invisibleRows

def isPrintable (c : Char) : Bool :=
  if c.toNat < 0x7F then 0x20 ≤ c.toNat else !(isUnassigned c || invisible.has c)

end Waymark.Unicode
