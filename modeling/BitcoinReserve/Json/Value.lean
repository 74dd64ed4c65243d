import BitcoinReserve.Json.Binary64
import BitcoinReserve.Text.Blank
import BitcoinReserve.Text.Digit
import BitcoinReserve.Text.Quoted

/-!
# JSON values

Integers are exact and apart from binary numbers. The number of their digits is limited only where
they are read; integers of any length can be written. An object keeps its members in order, each
name once.
-/
namespace BitcoinReserve

inductive Json where
  | null
  | bool (b : Bool)
  | int (n : Int)
  | real (x : Binary64)
  | text (s : Text)
  | array (items : List Json)
  | object (members : List (Text × Json))
  deriving Inhabited, Repr

namespace Json

/-- The member of an object with the given name. -/
def get? : Json → Text → Option Json
  | object members, name => (members.find? (·.1 = name)).map Prod.snd
  | _, _ => none

def text? : Json → Option Text
  | text s => some s
  | _ => none

/-- Neither empty nor zero nor false nor null. -/
def isSubstantial : Json → Bool
  | null => false
  | bool b => b
  | int n => n ≠ 0
  | real x => !x.isZero
  | text s => !s.isEmpty
  | array items => !items.isEmpty
  | object members => !members.isEmpty

/-- Sets a member, in the place of one of the same name if there is one. -/
def put (name : Text) (value : Json) : List (Text × Json) → List (Text × Json)
  | [] => [(name, value)]
  | (n, v) :: rest => if n = name then (n, value) :: rest else (n, v) :: put name value rest

inductive NumberFault where
  /-- The value has no number. -/
  | noNumber
  /-- The text or the number spells no integer. -/
  | malformed
  | infinite
  deriving DecidableEq, Repr

/-- Blanks around a number. Among the ASCII characters only those from tab to return and the space
count. -/
def isNumberBlank (c : Char) : Bool := Text.isBlank c && !(28 ≤ c.toNat && c.toNat ≤ 31)

/-- Decimal digits, between two of which one underscore may stand. -/
def digits? : List Char → Option (List Nat)
  | [] => none
  | [c] => (Text.digit? c).map fun d => [d]
  | c :: '_' :: rest => do return (← Text.digit? c) :: (← digits? rest)
  | c :: rest => do return (← Text.digit? c) :: (← digits? rest)

/-- The longest run of digits that is read as an integer. -/
def maxDigits : Nat := 4300

def readInt? (s : Text) : Option Int := do
  let cs ← s.chars?
  let cs := (cs.dropWhile isNumberBlank).reverse.dropWhile isNumberBlank |>.reverse
  let (negative, cs) :=
    match cs with
    | '-' :: rest => (true, rest)
    | '+' :: rest => (false, rest)
    | _ => (false, cs)
  let ds ← digits? cs
  if ds.length > maxDigits then none
  else
    let n : Int := Text.ofDigits ds
    some (if negative then -n else n)

/-- The integer that a value stands for. Fractions are cut off. -/
def toInt : Json → Except NumberFault Int
  | int n => .ok n
  | bool b => .ok (if b then 1 else 0)
  | real (.finite negative m e) => .ok (Binary64.truncate negative m e)
  | real (.infinity _) => .error .infinite
  | real .nan => .error .malformed
  | text s =>
    match readInt? s with
    | some n => .ok n
    | none => .error .malformed
  | null | array _ | object _ => .error .noNumber

def realText : Binary64 → String
  | .finite negative m e => (if negative then "-" else "") ++ Binary64.magnitudeText m e
  | .infinity negative => if negative then "-inf" else "inf"
  | .nan => "nan"

/-- A value in the words of a message; texts inside it are quoted. -/
def describeInner : Json → Text
  | null => "None"
  | bool b => if b then "True" else "False"
  | int n => toString n
  | real x => realText x
  | text s => Text.quoted s
  | array items => "[" ++ Text.join ", " (describeItems items) ++ "]"
  | object members => "\x7b" ++ Text.join ", " (describeMembers members) ++ "\x7d"
where
  describeItems : List Json → List Text
    | [] => []
    | j :: rest => describeInner j :: describeItems rest
  describeMembers : List (Text × Json) → List Text
    | [] => []
    | (name, j) :: rest => (Text.quoted name ++ ": " ++ describeInner j) :: describeMembers rest

/-- A value in the words of a message; a text stands as it is. -/
def describe : Json → Text
  | text s => s
  | j => describeInner j

end Json

end BitcoinReserve
