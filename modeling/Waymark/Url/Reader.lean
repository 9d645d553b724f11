import Waymark.Url.Address
import Waymark.Url.Domain
import Waymark.Url.Error
import Waymark.Url.Path

/-!
# Reading URLs

Blanks and controls around a URL, and tabs and line ends within it, are
ignored. What follows the scheme depends on it: the special schemes have a
host however many slashes stand before it, `file` has one only after two
slashes, and others have one after exactly two slashes and else a path alone.
-/

namespace Waymark.Url

/-- The text without what is ignored. -/
def significant (s : String) : List Char :=
  let outer (c : Char) : Bool := c.toNat ≤ 0x20
  (Text.trimEnd outer (s.toList.dropWhile outer)).filter fun c =>
    c != '\t' && c != '\n' && c != '\r'

def isSchemeChar (c : Char) : Bool :=
  Text.isLetter c || Text.isDigit c || c == '+' || c == '-' || c == '.'

/-- The scheme in small letters, and what follows its colon. -/
def cutScheme? (cs : List Char) : Option (String × List Char) :=
  match cs with
  | [] => none
  | c :: _ =>
    if !Text.isLetter c then none
    else match cs.dropWhile isSchemeChar with
      | ':' :: rest => some (Text.lower (String.ofList (cs.takeWhile isSchemeChar)), rest)
      | _ => none

/-! ## Hosts -/

/-- The address in brackets, if the text starts with one. -/
def bracketed? (cs : List Char) : Option (Except UrlError String) :=
  match cs with
  | '[' :: rest =>
    if rest.getLast? = some ']' then
      match Address.readIpv6? rest.dropLast with
      | some ns => some (.ok ("[" ++ Address.ipv6Text ns ++ "]"))
      | none => some (.error .ipv6)
    else some (.error .ipv6)
  | _ => none

/-- A host under a special scheme: an address or a domain name. -/
def readHost (cs : List Char) : Except UrlError String := do
  match bracketed? cs with
  | some result => result
  | none =>
    let text := Text.lenient (Text.Percent.decode (Text.utf8 cs))
    let some name := Domain.ascii? text | throw .domain
    if name.isEmpty then throw .emptyHost
    if Address.endsInNumber name then
      let some n := Address.readIpv4? name | throw .ipv4
      return Address.ipv4Text n
    return String.ofList name

/-- Characters that no host may have. -/
def isBadHostChar (c : Char) : Bool :=
  c == '\x00' || " #/:<>?@[\\]^|".toList.contains c

/-- A host under a scheme that is not special: an address or any text. -/
def readOpaqueHost (cs : List Char) : Except UrlError String :=
  match bracketed? cs with
  | some result => result
  | none =>
    if cs.any isBadHostChar then .error .domainCharacter
    else .ok (String.ofList (Text.Percent.encode isPlain cs))

/-! ## Authorities -/

/-- Whether a character ends the authority. -/
def endsAuthority (special : Bool) (c : Char) : Bool :=
  isSlash special c || c == '?' || c == '#'

/-- The text before the last `@` and the text after it. -/
def cutLastAt? (cs : List Char) : Option (List Char × List Char) :=
  match cs.reverse.span (· != '@') with
  | (_, []) => none
  | (tail, _ :: front) => some (front.reverse, tail.reverse)

/-- The user and the password as they are written. -/
def userinfoText (cs : List Char) : String :=
  let user := Text.Percent.encode keepUserinfo (cs.takeWhile (· != ':'))
  let password := Text.Percent.encode keepUserinfo ((cs.dropWhile (· != ':')).drop 1)
  let text := user ++ (if password.isEmpty then [] else ':' :: password)
  String.ofList (text ++ if text.isEmpty then [] else ['@'])

/-- The userinfo and what follows it. -/
def cutUserinfo (special : Bool) (cs : List Char) : Except UrlError (String × List Char) :=
  let front := cs.takeWhile (!endsAuthority special ·)
  let rest := cs.dropWhile (!endsAuthority special ·)
  match cutLastAt? front with
  | none => .ok ("", cs)
  | some (user, host) =>
    if user.isEmpty && host.isEmpty && !rest.isEmpty then .error .emptyHost
    else .ok (userinfoText user, host ++ rest)

/-- The host at the front of a text, where a colon in brackets does not end it. -/
def spanHost (special : Bool) : (inside : Bool) → List Char → List Char × List Char
  | _, [] => ([], [])
  | inside, c :: cs =>
    if endsAuthority special c || (c == ':' && !inside) then ([], c :: cs)
    else
      let (host, rest) := spanHost special (if c = '[' then true else if c = ']' then false
        else inside) cs
      (c :: host, rest)

/-- The port after its colon, and what follows it. The usual port is left out. -/
def readPort (scheme : String) (cs : List Char) : Except UrlError (Option Nat × List Char) :=
  let digits := cs.takeWhile Text.isDigit
  let rest := cs.dropWhile Text.isDigit
  let ended := match rest.head? with
    | some c => endsAuthority true c
    | none => true
  match Text.readDigitRun? 10 digits with
  | some n =>
    if n > 65535 || !ended then .error .port
    else .ok (if usualPort? scheme = some n then none else some n, rest)
  | none => if ended then .ok (none, rest) else .error .port

/-- The authority at the front of a text, and what follows it. -/
def readAuthority (scheme : String) (cs : List Char) :
    Except UrlError (Authority × List Char) := do
  let special := isSpecial scheme
  let (userinfo, rest) ← cutUserinfo special cs
  let (host, rest) := spanHost special false rest
  if special && host.isEmpty then throw .emptyHost
  let host ← if special then readHost host else readOpaqueHost host
  match rest with
  | ':' :: digits =>
    if host.isEmpty then throw .emptyHost
    let (port, rest) ← readPort scheme digits
    return (⟨userinfo, host, port⟩, rest)
  | _ =>
    if host.isEmpty && !userinfo.isEmpty then throw .emptyHost
    return (⟨userinfo, host, none⟩, rest)

/-! ## Queries and fragments -/

/-- The path and what follows it from the query or the fragment on. -/
def spanPath (cs : List Char) : List Char × List Char :=
  cs.span fun c => c != '?' && c != '#'

/-- The query and the fragment of what follows a path. -/
def tail (scheme : String) (cs : List Char) : Option String × Option String :=
  let fragment (cs : List Char) : Option String :=
    match cs with
    | '#' :: rest => some (String.ofList (Text.Percent.encode keepFragment rest))
    | _ => none
  match cs with
  | '?' :: rest =>
    let (query, rest) := rest.span (· != '#')
    (some (String.ofList (Text.Percent.encode (keepQuery (isSpecial scheme)) query)), fragment rest)
  | _ => (none, fragment cs)

/-! ## The kinds of URLs -/

/-- The path after an authority. -/
def authorityPath (special : Bool) (cs : List Char) : String :=
  match cs with
  | [] => if special then "/" else ""
  | c :: rest => pathOf special (if isSlash special c then rest else cs)

/-- A URL with an authority, from the text after the two slashes. -/
def readHosted (scheme : String) (cs : List Char) : Except UrlError Url := do
  let (authority, rest) ← readAuthority scheme cs
  let (path, rest) := spanPath rest
  let (query, fragment) := tail scheme rest
  return ⟨scheme, some authority, authorityPath (isSpecial scheme) path, query, fragment⟩

/-- A URL without authority: a path from the root, or a text of its own. -/
def readBare (scheme : String) (cs : List Char) : Url :=
  let (path, rest) := spanPath cs
  let (query, fragment) := tail scheme rest
  let path := match path with
    | '/' :: rest => pathOf false rest
    | _ => String.ofList (Text.Percent.encode isPlain path)
  ⟨scheme, none, path, query, fragment⟩

/-- The host of a file and its path from there on, after two slashes. A drive is no host. -/
def spanFileHost (cs : List Char) : List Char × List Char :=
  let host := cs.takeWhile (!isSlash true ·)
  if isDrive host then ([], cs) else (host, cs.drop host.length)

/-- The host of a file, which is nothing on the machine itself. -/
def readFileHost (host : List Char) : Except UrlError String := do
  if host.isEmpty then return ""
  let name ← readHost host
  return if name = "localhost" then "" else name

/-- The URL of a file with the text of its path. A host whose path a drive leads is the machine
itself. -/
def fileUrl (host : String) (path : List Char) (query fragment : Option String) : Url :=
  let (path, hasDrive) := filePathOf path
  ⟨"file", some ⟨"", if hasDrive then "" else host, none⟩, path, query, fragment⟩

/-- The URL of a file. A host stands between two slashes and a third, which is left out of the
text of the path unless the host is the machine itself. -/
def readFile (cs : List Char) : Except UrlError Url := do
  let (path, rest) := spanPath cs
  let (query, fragment) := tail "file" rest
  match path with
  | a :: b :: more =>
    if isSlash true a && isSlash true b then
      let (host, path) := spanFileHost more
      let host ← readFileHost host
      return fileUrl host (if host.isEmpty then path else path.drop 1) query fragment
    else return fileUrl "" path query fragment
  | _ => return fileUrl "" path query fragment

/-- Reads a URL. -/
def read (s : String) : Except UrlError Url := do
  let some (scheme, rest) := cutScheme? (significant s) | throw .relative
  if scheme = "file" then readFile rest
  else if isSpecial scheme then readHosted scheme (rest.dropWhile (isSlash true))
  else match rest with
    | '/' :: '/' :: rest => readHosted scheme rest
    | _ => return readBare scheme rest

end Waymark.Url
