import Waymark.Text.Cut
import Waymark.Text.Percent

/-!
# URLs

A URL in its parts, each as it is written. Its text is the parts put together,
and reading that text gives the parts again.
-/

namespace Waymark

structure Authority where
  /-- The user and the password with the sign that ends them, or nothing. -/
  userinfo : String
  host : String
  /-- The port, unless it is the usual one of the scheme. -/
  port : Option Nat
  deriving DecidableEq

structure Url where
  scheme : String
  authority : Option Authority
  path : String
  query : Option String
  fragment : Option String
  deriving DecidableEq

namespace Authority

def portText (a : Authority) : String :=
  match a.port with
  | some p => ":" ++ toString p
  | none => ""

/-- The host and the port. -/
def netloc (a : Authority) : String := a.host ++ a.portText

end Authority

namespace Url

/-- The host and the port; nothing for a URL without authority. -/
def netloc (u : Url) : String := ((u.authority.map Authority.netloc)).getD ""

/-- What stands between the scheme and the path. A path that starts with two slashes and has no
authority before it is kept apart by a dot. -/
def front (u : Url) : String :=
  match u.authority with
  | some a => "//" ++ a.userinfo ++ a.netloc
  | none => if "//".toList.isPrefixOf u.path.toList then "/." else ""

def text (u : Url) : String :=
  u.scheme ++ ":" ++ u.front ++ u.path ++ ((u.query.map ("?" ++ ·)).getD "") ++
    ((u.fragment.map ("#" ++ ·)).getD "")

/-! ## Schemes -/

/-- The schemes whose URLs always have a host, and their usual ports. -/
def usualPort? (scheme : String) : Option Nat :=
  match scheme with
  | "http" => some 80
  | "ws" => some 80
  | "https" => some 443
  | "wss" => some 443
  | "ftp" => some 21
  | _ => none

/-- Whether a scheme takes backslashes for slashes and needs a path. -/
def isSpecial (scheme : String) : Bool := (usualPort? scheme).isSome || scheme == "file"

/-- Whether the scheme is one over a secure connection. -/
def isSecure (u : Url) : Bool := u.scheme == "https" || u.scheme == "wss"

/-! ## Characters that stand for themselves -/

def isPlain (c : Char) : Bool := 0x20 ≤ c.toNat && c.toNat < 0x7F

def keepFragment (c : Char) : Bool := isPlain c && !" \"<>\x60".toList.contains c

def keepPath (c : Char) : Bool := keepFragment c && !"#?\x7b\x7d".toList.contains c

def keepUserinfo (c : Char) : Bool := keepPath c && !"/:;=@[\\]^|".toList.contains c

def keepQuery (special : Bool) (c : Char) : Bool :=
  isPlain c && !" \"#<>".toList.contains c && !(special && c == '\'')

end Url

end Waymark
