import BitcoinReserve.Bytes
import BitcoinReserve.Text.Basic

/-!
# Hexadecimal

Byte strings as pairs of digits.
-/
namespace BitcoinReserve.Hex

/-- The blanks that may stand before, between and after pairs of digits. -/
def isBlank (c : Char) : Bool :=
  c = ' ' || c = '\t' || c = '\n' || c = '\x0b' || c = '\x0c' || c = '\r'

def digit (n : Nat) : Char := if n < 10 then Char.ofNat (48 + n) else Char.ofNat (87 + n)

def digit? (c : Char) : Option Nat :=
  if '0' ≤ c ∧ c ≤ '9' then some (c.toNat - 48)
  else if 'a' ≤ c ∧ c ≤ 'f' then some (c.toNat - 87)
  else if 'A' ≤ c ∧ c ≤ 'F' then some (c.toNat - 55)
  else none

def encodeChars : Bytes → List Char
  | [] => []
  | b :: bs => digit (b.toNat / 16) :: digit (b.toNat % 16) :: encodeChars bs

/-- Lower-case, two digits a byte. -/
def encode (bs : Bytes) : Text := .ofChars (encodeChars bs)

/-- Pairs of digits of either case. Blanks may separate pairs but not the digits of one. -/
def decodeChars : List Char → Option Bytes
  | [] => some []
  | [c] => if isBlank c then some [] else none
  | c :: d :: rest =>
    if isBlank c then decodeChars (d :: rest)
    else
      match digit? c, digit? d with
      | some high, some low => (decodeChars rest).map (UInt8.ofNat (16 * high + low) :: ·)
      | _, _ => none

def decode? (text : Text) : Option Bytes := text.chars?.bind decodeChars

end BitcoinReserve.Hex
