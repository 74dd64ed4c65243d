import BitcoinReserve.Bytes
import BitcoinReserve.Text.Basic

/-!
# UTF-16 and UTF-32

Texts in units of two or four bytes, most or least significant byte first. Surrogates are joined in
pairs; one that stands alone stays as it is.
-/
namespace BitcoinReserve.Text

/-- The numbers in units of `width` bytes, if the bytes divide into whole units. -/
def units? (width : Nat) (bigEndian : Bool) (bs : Bytes) : Option (List Nat) :=
  let unit := if bigEndian then Bytes.toNatBE else Bytes.toNatLE
  if bs.length % width = 0 then some ((pieces width bs).map unit) else none

def isHigh (n : Nat) : Bool := 0xd800 ≤ n && n < 0xdc00

def isLow (n : Nat) : Bool := 0xdc00 ≤ n && n < 0xe000

/-- The character that a high and a low surrogate stand for together. -/
def joined (high low : Nat) : CodePoint :=
  .ofNat (0x10000 + 0x400 * (high - 0xd800) + (low - 0xdc00))

def ofUnits : List Nat → List CodePoint
  | high :: low :: rest =>
    if isHigh high && isLow low then joined high low :: ofUnits rest
    else .ofNat high :: ofUnits (low :: rest)
  | [unit] => [.ofNat unit]
  | [] => []

def decodeUtf16? (bigEndian : Bool) (bs : Bytes) : Option Text :=
  (units? 2 bigEndian bs).map fun units => ⟨ofUnits units⟩

def decodeUtf32? (bigEndian : Bool) (bs : Bytes) : Option Text := do
  let units ← units? 4 bigEndian bs
  if units.all (· < 0x110000) then some ⟨units.map .ofNat⟩ else none

end BitcoinReserve.Text
