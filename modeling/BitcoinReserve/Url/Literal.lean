import BitcoinReserve.Text.Cut

/-!
# Literal addresses of hosts

A host may be given by its number: four octets between dots, or eight groups of hexadecimal digits
between colons. Two colons in a row stand for the groups of zeros that are missing, the last two
groups may be four octets, and the zone of the number may follow a percent sign.
-/
namespace BitcoinReserve.Url

def isDigit (c : CodePoint) : Bool := 48 ≤ c.value && c.value ≤ 57

def isHexDigit (c : CodePoint) : Bool :=
  isDigit c || (65 ≤ c.value && c.value ≤ 70) || (97 ≤ c.value && c.value ≤ 102)

/-- The number that digits spell. -/
def decimal (t : Text) : Nat := t.points.foldl (fun n c => 10 * n + (c.value - 48)) 0

/-- A number up to 255 without leading zeros. -/
def isOctet (t : Text) : Bool :=
  !t.isEmpty && t.points.all isDigit && t.length ≤ 3 && (t = "0" || t.take 1 ≠ "0") &&
    decimal t ≤ 255

def areOctets (t : Text) : Bool :=
  let octets := t.splitOn '.'
  octets.length = 4 && octets.all isOctet

def isGroup (t : Text) : Bool := !t.isEmpty && t.length ≤ 4 && t.points.all isHexDigit

/-- The groups, where four octets at the end count as two groups. -/
def groups (t : Text) : List Text :=
  let found := t.splitOn ':'
  match found.getLast? with
  | some last =>
    if areOctets last then found.dropLast ++ [Text.ofString "0", Text.ofString "0"] else found
  | none => found

/-- One side of the two colons; an empty side has no groups. -/
def side (groups : List Text) : List Text := if groups = [Text.empty] then [] else groups

/-- Eight groups, or at most seven around two colons. -/
def areGroups (t : Text) : Bool :=
  let found := groups t
  match (found.drop 1).dropLast.findIdx? Text.isEmpty with
  | none => found.length = 8 && found.all isGroup
  | some i =>
    let around := side (found.take (i + 1)) ++ side (found.drop (i + 2))
    around.length ≤ 7 && around.all isGroup

def isZone (t : Text) : Bool := !t.isEmpty && !t.contains '%' && !t.contains '/'

/-- Whether a text is such a number in groups. -/
def isNumber (t : Text) : Bool :=
  let (number, zone) := t.cut '%'
  areGroups number && zone.all isZone

/-- Addresses of a kind to come: a version in hexadecimal after a `v`, and anything after a dot. -/
def isVersioned (t : Text) : Bool :=
  match t.cut '.' with
  | (version, some rest) =>
    version.opensWith "v" && 2 ≤ version.length && (version.points.drop 1).all isHexDigit &&
      !rest.isEmpty && !rest.contains '\n'
  | (_, none) => false

/-- Whether a text may stand between the brackets of a host. -/
def isLiteral (t : Text) : Bool := if t.opensWith "v" then isVersioned t else isNumber t

end BitcoinReserve.Url
