import BitcoinReserve.Domain.Preparation
import BitcoinReserve.Domain.Punycode

/-!
# Domain names

A name consists of labels between dots. A label beyond ASCII is written in ASCII by a mark and the
Punycode of its prepared form, and has fewer than 64 characters then.
-/
namespace BitcoinReserve.Domain

/-- What a label in Punycode begins with. -/
def mark : List Char := ['x', 'n', '-', '-']

def ascii? (ns : List Nat) : Option (List Char) :=
  if ns.all (· < 0x80) then some (ns.map Char.ofNat) else none

def fits (cs : List Char) : Bool := 0 < cs.length && cs.length < 64

def sized? (cs : List Char) : Option (List Char) := if fits cs then some cs else none

/-- The form in ASCII of one label. A prepared label must not look as if it were in Punycode. -/
def labelToAscii? (label : List Nat) : Option (List Char) :=
  match ascii? label with
  | some cs => sized? cs
  | none => do
    let prepared ← prepare? label
    match ascii? prepared with
    | some cs => sized? cs
    | none =>
      if (mark.map Char.toNat).isPrefixOf prepared then none
      else sized? (mark ++ Punycode.encode prepared)

/-- The label that a form in ASCII stands for. It must have that form again. -/
def labelOfAscii? (label : List Char) : Option (List Nat) :=
  if mark.isPrefixOf label then do
    let decoded ← Punycode.decode? (label.drop mark.length)
    let again ← labelToAscii? decoded
    if again = label.map Char.toLower then some decoded else none
  else some (label.map Char.toNat)

def split {α : Type} (isDot : α → Bool) : List α → List (List α)
  | [] => [[]]
  | a :: rest =>
    match split isDot rest with
    | label :: others => if isDot a then [] :: label :: others else (a :: label) :: others
    | [] => [[a]]

/-- The labels of a name, and whether a dot follows the last one. -/
def labels {α : Type} (isDot : α → Bool) (name : List α) : List (List α) × Bool :=
  let found := split isDot name
  if found.getLast?.all (·.isEmpty) then (found.dropLast, true) else (found, false)

def isDot (n : Nat) : Bool := n = 0x2e || n = 0x3002 || n = 0xff0e || n = 0xff61

/-- The form in ASCII of a whole name. -/
def toAscii? (name : Text) : Option (List Char) :=
  let ns := name.points.map CodePoint.value
  match ascii? ns with
  | some cs =>
    let found := split (· = '.') cs
    if found.dropLast.all fits && found.getLast?.all (·.length < 64) then some cs else none
  | none => do
    let (found, dot) := labels isDot ns
    let written ← found.mapM labelToAscii?
    return (written.intersperse ['.']).flatten ++ if dot then ['.'] else []

/-- The name that a form in ASCII stands for. -/
def ofAscii? (cs : List Char) : Option Text := do
  if cs.isEmpty then return .empty
  let (found, dot) := labels (· = '.') cs
  let read ← found.mapM labelOfAscii?
  return ⟨((read.intersperse [0x2e]).flatten ++ if dot then [0x2e] else []).map .ofNat⟩

end BitcoinReserve.Domain
