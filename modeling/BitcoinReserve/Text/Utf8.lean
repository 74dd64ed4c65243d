import BitcoinReserve.Bytes
import BitcoinReserve.Text.Basic

/-!
# UTF-8

The bytes of a text without surrogates, and the text of any bytes: what is no character becomes a
replacement character, one for each longest beginning of a character.
-/
namespace BitcoinReserve.Text

def utf8 (s : String) : Bytes := s.toUTF8.data.toList

/-- Nothing when there is a surrogate in the text. -/
def utf8? (t : Text) : Option Bytes := t.string?.map utf8

/-- The bits in a first byte and the range of the byte after it; the other bytes that follow are
between 0x80 and 0xbf. -/
structure Lead where
  bits : Nat
  lowest : Nat
  highest : Nat
  /-- How many bytes follow after the next one. -/
  more : Nat

def lead? (b : Nat) : Option Lead :=
  if 0xc2 ≤ b ∧ b < 0xe0 then some ⟨b - 0xc0, 0x80, 0xbf, 0⟩
  else if b = 0xe0 then some ⟨0, 0xa0, 0xbf, 1⟩
  else if b = 0xed then some ⟨0xd, 0x80, 0x9f, 1⟩
  else if 0xe0 < b ∧ b < 0xf0 then some ⟨b - 0xe0, 0x80, 0xbf, 1⟩
  else if b = 0xf0 then some ⟨0, 0x90, 0xbf, 2⟩
  else if 0xf0 < b ∧ b < 0xf4 then some ⟨b - 0xf0, 0x80, 0xbf, 2⟩
  else if b = 0xf4 then some ⟨4, 0x80, 0x8f, 2⟩
  else none

/-- Reads the bytes that follow; gives the character, or else the bytes that fit, newest first, and
the rest. -/
def follow (bits lowest highest : Nat) : Nat → Bytes → Bytes → Except Bytes Char × Bytes
  | _, read, [] => (.error read, [])
  | more, read, b :: rest =>
    if lowest ≤ b.toNat ∧ b.toNat ≤ highest then
      let bits := 64 * bits + (b.toNat - 0x80)
      match more with
      | 0 => (.ok (Char.ofNat bits), rest)
      | more + 1 => follow bits 0x80 0xbf more (b :: read) rest
    else (.error read, b :: rest)

/-- The characters, and between them the longest beginnings of characters, newest byte first. -/
def utf8Pieces : (fuel : Nat) → Bytes → List (Except Bytes Char)
  | 0, _ => []
  | _, [] => []
  | fuel + 1, b :: rest =>
    if b < 0x80 then .ok (Char.ofNat b.toNat) :: utf8Pieces fuel rest
    else
      match lead? b.toNat with
      | none => .error [b] :: utf8Pieces fuel rest
      | some lead =>
        let (piece, rest) := follow lead.bits lead.lowest lead.highest lead.more [b] rest
        piece :: utf8Pieces fuel rest

def decodeUtf8 (bs : Bytes) : Text :=
  ofChars ((utf8Pieces bs.length bs).map fun piece =>
    match piece with
    | .ok c => c
    | .error _ => '\ufffd')

end BitcoinReserve.Text
