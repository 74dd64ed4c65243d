import BitcoinReserve.Text.Hex
import BitcoinReserve.Text.Printable

/-!
# Quoted text

Single quotes enclose a text, or double quotes where it holds single quotes only. The enclosing
quote, the backslash, unprintable characters and surrogates are escaped.
-/
namespace BitcoinReserve.Text

/-- The lowest `width` hexadecimal digits. -/
def hexDigits (width n : Nat) : List Char :=
  (List.range width).reverse.map fun i => Hex.digit (n / Nat.pow 16 i % 16)

def escapeChar (quote : Char) (c : Char) : List Char :=
  if c = quote ∨ c = '\\' then ['\\', c]
  else if c = '\n' then ['\\', 'n']
  else if c = '\r' then ['\\', 'r']
  else if c = '\t' then ['\\', 't']
  else if isPrintable c then [c]
  else if c.toNat < 0x100 then '\\' :: 'x' :: hexDigits 2 c.toNat
  else if c.toNat < 0x10000 then '\\' :: 'u' :: hexDigits 4 c.toNat
  else '\\' :: 'U' :: hexDigits 8 c.toNat

def escape (quote : Char) : CodePoint → List Char
  | .char c => escapeChar quote c
  | .surrogate n => '\\' :: 'u' :: hexDigits 4 (0xd800 + n)

def quoted (text : Text) : Text :=
  let quote := if .char '\x27' ∈ text.points ∧ .char '\x22' ∉ text.points then '\x22' else '\x27'
  ofChars (quote :: text.points.flatMap (escape quote) ++ [quote])

/-- The texts quoted, between brackets. -/
def quotedList (texts : List Text) : Text := "[" ++ join ", " (texts.map quoted) ++ "]"

end BitcoinReserve.Text
