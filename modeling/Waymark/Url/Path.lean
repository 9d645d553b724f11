import Waymark.Url.Basic

/-!
# Paths of URLs

A path is read segment by segment. A segment of one dot is dropped and a segment
of two dots takes the segment before it away, unless that names a drive. The
dots may be percent-encoded. In the path of a file, a drive that leads it is
written with a colon, and slashes at the front count once.
-/

namespace Waymark.Url

/-- Segments are ended by slashes, and under a special scheme also by backslashes. -/
def isSlash (special : Bool) (c : Char) : Bool := c == '/' || (special && c == '\\')

/-- The segments of a path. -/
def segments (special : Bool) (cs : List Char) : List (List Char) :=
  Text.pieces '/' (cs.map fun c => if isSlash special c then '/' else c)

/-- A segment with its encoded dots written plainly. -/
def plainDots : List Char → List Char
  | '%' :: '2' :: e :: rest => if e = 'e' ∨ e = 'E' then '.' :: plainDots rest
    else '%' :: '2' :: plainDots (e :: rest)
  | c :: rest => c :: plainDots rest
  | [] => []

/-- A letter and a colon or a bar. -/
def isDrive (cs : List Char) : Bool :=
  match cs with
  | [c, d] => Text.isLetter c && (d == ':' || d == '|')
  | _ => false

/-- Whether a segment names a drive, alone or in front of a backslash. -/
def namesDrive (segment : List Char) : Bool :=
  isDrive (segment.take 2) && (segment.drop 2).head?.all (· == '\\')

/-! ## Dot segments

The segments that have been read are kept with the last one first. -/

/-- The segments without the last one, unless that names a drive. -/
def shorten : List (List Char) → List (List Char)
  | [] => []
  | segment :: done => if namesDrive segment then segment :: done else done

/-- Adds a segment with a slash after it. -/
def addSegment (done : List (List Char)) (segment : List Char) : List (List Char) :=
  match plainDots segment with
  | ['.', '.'] => shorten done
  | ['.'] => done
  | _ => segment :: done

/-- Adds the last segment: the path then ends with it, or with a slash if it was dots. -/
def addLast (done : List (List Char)) (segment : List Char) : List (List Char) :=
  match plainDots segment with
  | ['.', '.'] => [] :: shorten done
  | ['.'] => [] :: done
  | _ => segment :: done

/-- The path after its first slash, without dot segments. -/
def resolved (segments : List (List Char)) : List (List Char) :=
  (addLast (segments.dropLast.foldl addSegment []) (segments.getLast?.getD [])).reverse

/-! ## Paths -/

def joinSegments (segments : List (List Char)) : String :=
  Text.joined "/" (segments.map String.ofList)

/-- The segments of a text after a slash, without dot segments. -/
def segmentsOf (special : Bool) (cs : List Char) : List (List Char) :=
  resolved ((segments special cs).map (Text.Percent.encode keepPath))

/-- The path whose text after the first slash is given. -/
def pathOf (special : Bool) (cs : List Char) : String := "/" ++ joinSegments (segmentsOf special cs)

/-- The path of a file whose text is given, and whether it is led by a drive. One that stands
behind a slash of the text is a segment like any other. -/
def filePathOf (cs : List Char) : String × Bool :=
  let plain (done : List (List Char)) : String × Bool :=
    ("/" ++ joinSegments (done.dropWhile (·.isEmpty)), false)
  if cs.head?.any (isSlash true) then plain (segmentsOf true cs)
  else match segmentsOf true cs with
    | [c, d] :: rest =>
      if isDrive [c, d] then ("/" ++ joinSegments ([c, ':'] :: rest), true)
      else plain ([c, d] :: rest)
    | done => plain done

end Waymark.Url
