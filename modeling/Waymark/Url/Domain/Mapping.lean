import Waymark.Url.Domain.Table

/-!
# The mapping of domain names

Every character of a name is replaced by what it stands for before the name is
cut into labels. Among ASCII characters, capitals stand for small letters, and
some may be in no name because they mean something else in a URL.
-/

namespace Waymark.Domain

/-- ASCII characters that no name may have. -/
def isForbidden (c : Char) : Bool :=
  c.toNat ≤ 0x20 || c.toNat == 0x7F || "%#/:<>?@[\\]^|".toList.contains c

/-- What a character of a name stands for; `none` if it may not be there. -/
def mapChar? (c : Char) : Option (List Char) :=
  if c.toNat < 0x80 then some [c.toLower]
  else if isDisallowed c then none
  else if isIgnored c then some []
  else some ((image? c).getD [c])

/-- Whether a character stands for itself. -/
def isStable (c : Char) : Bool := mapChar? c == some [c] && !isForbidden c

end Waymark.Domain
