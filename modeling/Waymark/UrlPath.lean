import Waymark.Json.Printer
import Waymark.Tree.Basic
import Waymark.Url.Reader

/-!
# Reversed paths

The result of a reverse lookup: a path, the protocol of the route it belongs
to, and the host if the route is behind a host gate. A subtree taken as a whole
has no protocol. Against a base it becomes a URL: the scheme follows the protocol
and is secure if the base is, the host replaces the one of the base, and the
path is put behind that of the base.
-/

namespace Waymark

structure UrlPath where
  path : String
  protocol : Option Protocol
  host : Option String
  deriving DecidableEq

namespace UrlPath

/-- The path as an object; the host is left out when there is none. -/
def toJson (u : UrlPath) : Json :=
  .obj ([("path", .str u.path), ("protocol", Json.ofOption (fun p => .str p.name) u.protocol)] ++
    (u.host.map fun h => ("host", Json.str h)).toList)

/-- The text of the absolute URL before it is read. -/
def absoluteText (u : UrlPath) (base : Url) : String :=
  let scheme := match u.protocol with
    | some p => p.scheme base.isSecure
    | none => base.scheme
  scheme ++ "://" ++ u.host.getD base.netloc ++ Text.dropTrailing '/' base.path ++ u.path

/-- The absolute URL against a base. -/
def absolute (u : UrlPath) (base : String) : Except UrlError Url := do
  Url.read (u.absoluteText (← Url.read base))

end UrlPath

end Waymark
