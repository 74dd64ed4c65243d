import BitcoinReserve.Bytes
import BitcoinReserve.Text.Letter

/-!
# Segregated-witness addresses

A human-readable part, the separator `1`, and symbols of five bits: the witness version, the program
and a checksum of six symbols. Version 0 ends in the checksum constant of Bech32, every other
version in that of Bech32m.
-/
namespace BitcoinReserve.Bech32

abbrev Symbol := BitVec 5

def alphabet : List Char := "qpzry9x8gf2tvdw0s3jn54khce6mua7l".toList

def symbolChar (s : Symbol) : Char := alphabet.getD s.toNat 'q'

def charSymbol? (c : Char) : Option Symbol := (alphabet.idxOf? c).map (BitVec.ofNat 5)

/-- What the five bits shifted out of the checksum register put back into it. -/
def feedback (top : BitVec 5) : BitVec 30 :=
  let term (i : Nat) (generator : BitVec 30) := if top.getLsbD i then generator else 0
  term 0 0x3b6a57b2 ^^^ term 1 0x26508e6d ^^^ term 2 0x1ea119fa ^^^ term 3 0x3d4233dd ^^^
    term 4 0x2a1462b3

def shiftIn (register : BitVec 30) (s : Symbol) : BitVec 30 :=
  (register <<< 5) ^^^ s.setWidth 30 ^^^ feedback ((register >>> 25).setWidth 5)

def residue (symbols : List Symbol) : BitVec 30 := symbols.foldl shiftIn 1

/-- The human-readable part as the checksum sees it. -/
def expand (part : List Char) : List Symbol :=
  part.map (fun c => BitVec.ofNat 5 (c.toNat / 32)) ++
    0 :: part.map (fun c => BitVec.ofNat 5 c.toNat)

/-- The residue of a sound address whose first symbol is `version`. -/
def constant (version : Symbol) : BitVec 30 := if version = 0 then 1 else 0x2bc830a3

def checksum (part : List Char) (version : Symbol) (data : List Symbol) : List Symbol :=
  let r := residue (expand part ++ data ++ List.replicate 6 0) ^^^ constant version
  [25, 20, 15, 10, 5, 0].map fun i => (r >>> i).setWidth 5

/-- The eight bits of each byte, most significant first. -/
def byteBits (bs : Bytes) : List Bool :=
  bs.flatMap fun b => [7, 6, 5, 4, 3, 2, 1, 0].map b.toNat.testBit

def symbolBits (symbols : List Symbol) : List Bool :=
  symbols.flatMap fun s => [4, 3, 2, 1, 0].map s.getLsbD

def ofBits (bits : List Bool) : Nat := bits.foldl (fun n b => 2 * n + b.toNat) 0

/-- Groups of five bits, the last one filled up with zeros. -/
def groupSymbols : List Bool → List Symbol
  | [] => []
  | a :: b :: c :: d :: e :: rest => BitVec.ofNat 5 (ofBits [a, b, c, d, e]) :: groupSymbols rest
  | short => [BitVec.ofNat 5 (ofBits (short ++ List.replicate (5 - short.length) false))]

/-- Groups of eight bits, and the bits left over. -/
def groupBytes : List Bool → Bytes × List Bool
  | a :: b :: c :: d :: e :: f :: g :: h :: rest =>
    let (bs, left) := groupBytes rest
    (UInt8.ofNat (ofBits [a, b, c, d, e, f, g, h]) :: bs, left)
  | left => ([], left)

/-- Writes a program of any length. -/
def encode (part : String) (version : Symbol) (program : Bytes) : Text :=
  let data := version :: groupSymbols (byteBits program)
  .ofChars (part.toList ++ '1' :: (data ++ checksum part.toList version data).map symbolChar)

/-- Splits lower-case text at its last separator. -/
def split? (text : List Char) : Option (List Char × List Char) :=
  let data := (text.reverse.takeWhile (· ≠ '1')).reverse
  match text.reverse.dropWhile (· ≠ '1') with
  | [] => none
  | _ :: part => some (part.reverse, data)

/-- The symbols between the human-readable part and a checksum that holds. -/
def symbols? (part : String) (text : Text) : Option (Symbol × List Symbol) := do
  let cs ← text.chars?
  if cs.any Char.isLower && cs.any Text.isUpper then none
  else
    let (found, data) ← split? (cs.map Text.lower)
    let symbols ← data.mapM charSymbol?
    match symbols.take (symbols.length - 6) with
    | [] => none
    | version :: rest =>
      if found = part.toList ∧ residue (expand found ++ symbols) = constant version then
        some (version, rest)
      else none

/-- The version and program of an address in one case throughout, whose padding is zero. -/
def decode? (part : String) (text : Text) : Option (Nat × Bytes) := do
  let (version, symbols) ← symbols? part text
  let (program, left) := groupBytes (symbolBits symbols)
  if left.length < 5 ∧ left.all (· = false) ∧ 2 ≤ program.length ∧ program.length ≤ 40 ∧
      version.toNat ≤ 16 ∧ (version = 0 → program.length = 20 ∨ program.length = 32) then
    some (version.toNat, program)
  else none

end BitcoinReserve.Bech32
