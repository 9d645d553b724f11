import Waymark.Text.Ascii
import Waymark.Text.Cut
import Waymark.Text.Integer

/-!
# Addresses

An IPv4 address is up to four numbers between points, in decimal, octal after a
zero or hexadecimal after `0x`; the last number fills all bytes that are left.
An IPv6 address is eight numbers of 16 bits between colons, where `::` stands
for the zeros that are missing and the last two may be an IPv4 address.
-/

namespace Waymark.Address

/-! ## IPv4 -/

/-- The digits of a number in a name and their radix. -/
def radixOf : List Char → Nat × List Char
  | '0' :: 'x' :: ds => (16, ds)
  | '0' :: 'X' :: ds => (16, ds)
  | '0' :: d :: ds => (8, d :: ds)
  | ds => (10, ds)

/-- A number in a name; a prefix without digits is zero. -/
def number? (cs : List Char) : Option Nat :=
  if cs.isEmpty then none
  else
    let (radix, ds) := radixOf cs
    if ds.isEmpty then some 0 else Text.readDigitRun? radix ds

/-- The labels of a name without the empty one that follows a point at its end. -/
def labels (cs : List Char) : List (List Char) :=
  let ls := Text.pieces '.' cs
  if ls.getLast? = some [] then ls.dropLast else ls

/-- Whether the last label of a name is a number, so that the name has to be an address. -/
def endsInNumber (cs : List Char) : Bool :=
  match (labels cs).getLast? with
  | some l => (!l.isEmpty && l.all Text.isDigit) || (number? l).isSome
  | none => false

/-- The address that the labels write, as one number. -/
def readIpv4? (cs : List Char) : Option Nat := do
  let ns ← (labels cs).mapM number?
  if ns.length > 4 then none
  let last ← ns.getLast?
  let front := ns.dropLast
  if last ≥ Nat.pow 256 (4 - front.length) || front.any (· > 255) then none
  return front.zipIdx.foldl (fun sum (n, i) => sum + n * Nat.pow 256 (3 - i)) last

def ipv4Text (n : Nat) : String :=
  Text.joined "." ([3, 2, 1, 0].map fun i => toString (n / Nat.pow 256 i % 256))

/-! ## IPv6 -/

/-- A decimal number of one byte without superfluous zeros. -/
def byte? (cs : List Char) : Option Nat :=
  match cs with
  | [] => none
  | '0' :: _ :: _ => none
  | _ => (Text.readDigitRun? 10 cs).filter (· ≤ 255)

/-- Four bytes between points, as two numbers of 16 bits. -/
def readTail? (cs : List Char) : Option (List Nat) := do
  match ← (Text.pieces '.' cs).mapM byte? with
  | [a, b, c, d] => return [a * 256 + b, c * 256 + d]
  | _ => none

/-- The numbers between colons; the last group may be an IPv4 address. -/
def readGroups? : List (List Char) → Option (List Nat)
  | [] => some []
  | [g] =>
    if g.contains '.' then readTail? g
    else if g.length ≤ 4 then (Text.readDigitRun? 16 g).map fun n => [n] else none
  | g :: gs => do
    if g.length > 4 then none
    return (← Text.readDigitRun? 16 g) :: (← readGroups? gs)

/-- The groups of one side of `::`, or of a whole address; none for the empty text. -/
def readSide? (cs : List Char) : Option (List Nat) :=
  if cs.isEmpty then some [] else readGroups? (Text.pieces ':' cs)

/-- The text before the first `::` and the text after it. -/
def cutGap? : List Char → Option (List Char × List Char)
  | ':' :: ':' :: rest => some ([], rest)
  | c :: cs => (cutGap? cs).map fun (before, after) => (c :: before, after)
  | [] => none

/-- The eight numbers of an address. -/
def readIpv6? (cs : List Char) : Option (List Nat) :=
  match cutGap? cs with
  | none => (readSide? cs).filter (·.length == 8)
  | some (before, after) => do
    if before.contains '.' then none
    let front ← readSide? before
    let back ← readSide? after
    let known := front.length + back.length
    if known > 7 then none
    return front ++ List.replicate (8 - known) 0 ++ back

/-- The start and the length of the first longest run of zeros. -/
def longestZeros : (place : Nat) → List Nat → Nat × Nat
  | _, [] => (0, 0)
  | place, n :: ns =>
    let here := ((n :: ns).takeWhile (· == 0)).length
    let later := longestZeros (place + 1) ns
    if here > 0 && here ≥ later.2 then (place, here) else later

def groupsText (ns : List Nat) : String := Text.joined ":" (ns.map Text.hex)

/-- The eight numbers, with `::` for the first longest run of at least two zeros. -/
def ipv6Text (ns : List Nat) : String :=
  let (start, count) := longestZeros 0 ns
  if count < 2 then groupsText ns
  else groupsText (ns.take start) ++ "::" ++ groupsText (ns.drop (start + count))

end Waymark.Address
