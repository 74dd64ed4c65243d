import BitcoinReserve.Json.Value
import BitcoinReserve.Text.Wide

/-!
# Reading JSON

The standard grammar, with `NaN` and the infinities as further numbers. Of members with one name the
last counts. Escaped surrogates are joined in pairs. A reader has a limit on how deep arrays and
objects may lie in one another.
-/
namespace BitcoinReserve.Json

inductive ReadFault where
  | malformed
  | tooDeep
  deriving DecidableEq, Repr

/-- What is read at the front, and the rest. -/
abbrev Found (α : Type) := Except ReadFault (α × List CodePoint)

def isBlank (c : CodePoint) : Bool := c = ' ' || c = '\t' || c = '\n' || c = '\r'

def skipBlanks (cs : List CodePoint) : List CodePoint := cs.dropWhile isBlank

def isDigit (c : CodePoint) : Bool := 48 ≤ c.value && c.value ≤ 57

def number (cs : List CodePoint) : Nat := Text.ofDigits (cs.map fun c => c.value - 48)

/-- A run of digits and the rest. -/
def spanDigits (cs : List CodePoint) : List CodePoint × List CodePoint :=
  (cs.takeWhile isDigit, cs.dropWhile isDigit)

/-- Splits off the places after a point, if there are any. -/
def spanFraction : List CodePoint → List CodePoint × List CodePoint
  | .char '.' :: rest =>
    match spanDigits rest with
    | ([], _) => ([], .char '.' :: rest)
    | found => found
  | rest => ([], rest)

/-- Splits off an exponent, if there is one. -/
def spanExponent (cs : List CodePoint) : Option Int × List CodePoint :=
  match cs with
  | e :: rest =>
    if e = 'e' ∨ e = 'E' then
      let (negative, digits) :=
        match rest with
        | .char '-' :: digits => (true, digits)
        | .char '+' :: digits => (false, digits)
        | _ => (false, rest)
      match spanDigits digits with
      | ([], _) => (none, cs)
      | (ds, rest) => (some (if negative then -(number ds : Int) else number ds), rest)
    else (none, cs)
  | [] => (none, cs)

/-- An integer without leading zeros, a fraction and an exponent; either of the last two makes the
number a binary one. -/
def readNumber (cs : List CodePoint) : Found Json :=
  let (negative, body) :=
    match cs with
    | .char '-' :: rest => (true, rest)
    | _ => (false, cs)
  let (whole, rest) :=
    match body with
    | .char '0' :: rest => ([CodePoint.char '0'], rest)
    | _ => spanDigits body
  if whole.isEmpty then .error .malformed
  else
    let (fraction, rest) := spanFraction rest
    let (exponent, rest) := spanExponent rest
    if fraction.isEmpty ∧ exponent.isNone then
      if whole.length > maxDigits then .error .malformed
      else
        let n : Int := number whole
        .ok (.int (if negative then -n else n), rest)
    else
      let ds := whole ++ fraction
      .ok (.real (.ofDecimal negative ds.length (number ds) (exponent.getD 0 - fraction.length)),
        rest)

def hexDigit? (c : CodePoint) : Option Nat := c.char?.bind Hex.digit?

def hexUnit? (a b c d : CodePoint) : Option Nat := do
  return 4096 * (← hexDigit? a) + 256 * (← hexDigit? b) + 16 * (← hexDigit? c) + (← hexDigit? d)

def escaped? : CodePoint → Option CodePoint
  | .char '\x22' => some '\x22'
  | .char '\\' => some '\\'
  | .char '/' => some '/'
  | .char 'b' => some '\x08'
  | .char 'f' => some '\x0c'
  | .char 'n' => some '\n'
  | .char 'r' => some '\r'
  | .char 't' => some '\t'
  | _ => none

/-- The code points up to the closing quote, which go before those read already, and the rest. -/
def readPoints : Nat → List CodePoint → List CodePoint → Found (List CodePoint)
  | 0, _, _ => .error .malformed
  | fuel + 1, read, cs =>
    match cs with
    | [] => .error .malformed
    | .char '\x22' :: rest => .ok (read.reverse, rest)
    | .char '\\' :: .char 'u' :: a :: b :: c :: d :: rest =>
      match hexUnit? a b c d with
      | none => .error .malformed
      | some high =>
        match rest with
        | .char '\\' :: .char 'u' :: e :: f :: g :: h :: after =>
          match (hexUnit? e f g h).filter fun low => Text.isHigh high && Text.isLow low with
          | some low => readPoints fuel (Text.joined high low :: read) after
          | none => readPoints fuel (.ofNat high :: read) rest
        | _ => readPoints fuel (.ofNat high :: read) rest
    | .char '\\' :: c :: rest =>
      match escaped? c with
      | some c => readPoints fuel (c :: read) rest
      | none => .error .malformed
    | c :: rest =>
      if c.value < 0x20 then .error .malformed else readPoints fuel (c :: read) rest

/-- A text whose opening quote is read already. -/
def readText (fuel : Nat) (cs : List CodePoint) : Found Text :=
  (readPoints fuel [] cs).map fun (found, rest) => (⟨found⟩, rest)

/-- The rest after a word that the text opens with. -/
def afterWord? : List Char → List CodePoint → Option (List CodePoint)
  | [], cs => some cs
  | w :: ws, c :: cs => if w = c then afterWord? ws cs else none
  | _ :: _, [] => none

def words : List (String × Json) :=
  [("null", .null), ("true", .bool true), ("false", .bool false), ("NaN", .real .nan),
    ("Infinity", .real (.infinity false)), ("-Infinity", .real (.infinity true))]

mutual

/-- A value at the front, with `depth` more levels at most; `fuel` bounds the steps. -/
def readValue : (fuel depth : Nat) → List CodePoint → Found Json
  | 0, _, _ => .error .malformed
  | fuel + 1, depth, cs =>
    match cs with
    | .char '\x22' :: rest => (readText fuel rest).map fun (s, rest) => (.text s, rest)
    | .char '[' :: rest =>
      match depth with
      | 0 => .error .tooDeep
      | depth + 1 =>
        match skipBlanks rest with
        | .char ']' :: rest => .ok (.array [], rest)
        | rest => (readItems fuel depth [] rest).map fun (items, rest) => (.array items, rest)
    | .char '\x7b' :: rest =>
      match depth with
      | 0 => .error .tooDeep
      | depth + 1 =>
        match skipBlanks rest with
        | .char '\x7d' :: rest => .ok (.object [], rest)
        | rest =>
          (readMembers fuel depth [] rest).map fun (members, rest) => (.object members, rest)
    | _ =>
      match words.findSome? fun (word, value) => (afterWord? word.toList cs).map (value, ·) with
      | some found => .ok found
      | none => readNumber cs

/-- The items of an array from the next one on, after those read already. -/
def readItems : (fuel depth : Nat) → List Json → List CodePoint → Found (List Json)
  | 0, _, _, _ => .error .malformed
  | fuel + 1, depth, read, cs =>
    match readValue fuel depth cs with
    | .error fault => .error fault
    | .ok (item, rest) =>
      match skipBlanks rest with
      | .char ',' :: rest => readItems fuel depth (item :: read) (skipBlanks rest)
      | .char ']' :: rest => .ok ((item :: read).reverse, rest)
      | _ => .error .malformed

/-- The members of an object from the next one on, after those read already. -/
def readMembers :
    (fuel depth : Nat) → List (Text × Json) → List CodePoint → Found (List (Text × Json))
  | 0, _, _, _ => .error .malformed
  | fuel + 1, depth, read, cs =>
    match cs with
    | .char '\x22' :: rest =>
      match readText fuel rest with
      | .error fault => .error fault
      | .ok (name, rest) =>
        match skipBlanks rest with
        | .char ':' :: rest =>
          match readValue fuel depth (skipBlanks rest) with
          | .error fault => .error fault
          | .ok (value, rest) =>
            match skipBlanks rest with
            | .char ',' :: rest => readMembers fuel depth (put name value read) (skipBlanks rest)
            | .char '\x7d' :: rest => .ok (put name value read, rest)
            | _ => .error .malformed
        | _ => .error .malformed
    | _ => .error .malformed

end

/-- The value that a text holds, with blanks around it, where it lies no deeper than the limit. -/
def read (limit : Nat) (text : Text) : Except ReadFault Json :=
  match readValue (2 * text.length + 2) limit (skipBlanks text.points) with
  | .error fault => .error fault
  | .ok (value, rest) => if (skipBlanks rest).isEmpty then .ok value else .error .malformed

end BitcoinReserve.Json
