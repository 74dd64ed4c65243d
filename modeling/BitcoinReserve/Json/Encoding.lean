import BitcoinReserve.Text.Utf8
import BitcoinReserve.Text.Wide

/-!
# Encodings of JSON

The first two characters of a JSON text are in ASCII, so the zeros among its first four bytes tell
how wide the units are and which byte of a unit comes first.
-/
namespace BitcoinReserve.Json

inductive Encoding where
  | utf8
  | utf16 (bigEndian : Bool)
  | utf32 (bigEndian : Bool)
  deriving DecidableEq, Repr

namespace Encoding

def of : Bytes → Encoding
  | [a, b] => if a = 0 then .utf16 true else if b = 0 then .utf16 false else .utf8
  | a :: b :: c :: d :: _ =>
    if a = 0 then if b = 0 then .utf32 true else .utf16 true
    else if b = 0 then if c = 0 ∧ d = 0 then .utf32 false else .utf16 false
    else .utf8
  | _ => .utf8

/-- The mark at the start of a text in UTF-8, which is no part of it. -/
def mark : Bytes := [0xef, 0xbb, 0xbf]

def decode? : Encoding → Bytes → Option Text
  | utf8, bs => some (Text.decodeUtf8 (if mark.isPrefixOf bs then bs.drop mark.length else bs))
  | utf16 bigEndian, bs => Text.decodeUtf16? bigEndian bs
  | utf32 bigEndian, bs => Text.decodeUtf32? bigEndian bs

end Encoding

/-- The text that a reader takes the bytes for. -/
def decode? (bs : Bytes) : Option Text := (Encoding.of bs).decode? bs

end BitcoinReserve.Json
