import BitcoinReserve.Json.Value

/-!
# Writing JSON

The compact form, in ASCII: every other character is written by its UTF-16 units, a surrogate by
itself.
-/
namespace BitcoinReserve.Json

def unit (n : Nat) : List Char := '\\' :: 'u' :: Text.hexDigits 4 n

def writeChar (c : Char) : List Char :=
  let n := c.toNat
  if c = '\x22' then ['\\', '\x22']
  else if c = '\\' then ['\\', '\\']
  else if 0x20 ≤ n ∧ n < 0x7f then [c]
  else if n < 0x10000 then unit n
  else unit (0xd800 + (n - 0x10000) / 0x400) ++ unit (0xdc00 + (n - 0x10000) % 0x400)

def writePoint : CodePoint → List Char
  | .char c => writeChar c
  | .surrogate n => unit (0xd800 + n)

def writeText (s : Text) : String :=
  String.ofList ('\x22' :: s.points.flatMap writePoint ++ ['\x22'])

def writeReal : Binary64 → String
  | .finite negative m e => (if negative then "-" else "") ++ Binary64.magnitudeText m e
  | .infinity negative => if negative then "-Infinity" else "Infinity"
  | .nan => "NaN"

def write : Json → String
  | null => "null"
  | bool b => if b then "true" else "false"
  | int n => toString n
  | real x => writeReal x
  | text s => writeText s
  | array items => "[" ++ String.intercalate "," (writeItems items) ++ "]"
  | object members => "\x7b" ++ String.intercalate "," (writeMembers members) ++ "\x7d"
where
  writeItems : List Json → List String
    | [] => []
    | j :: rest => write j :: writeItems rest
  writeMembers : List (Text × Json) → List String
    | [] => []
    | (name, j) :: rest => (writeText name ++ ":" ++ write j) :: writeMembers rest

end BitcoinReserve.Json
