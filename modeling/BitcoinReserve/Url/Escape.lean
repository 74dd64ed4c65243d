import BitcoinReserve.Text.Hex
import BitcoinReserve.Text.Utf8
import BitcoinReserve.Url.Split

/-!
# Escapes in addresses of resources

A percent sign and two hexadecimal digits stand for a byte. Bytes other than letters, digits and
certain marks are escaped.
-/
namespace BitcoinReserve.Url

def hexUpper (n : Nat) : Char := if n < 10 then Char.ofNat (48 + n) else Char.ofNat (55 + n)

def escapeByte (b : UInt8) : List Char := ['%', hexUpper (b.toNat / 16), hexUpper (b.toNat % 16)]

def isPlain (c : Char) : Bool := c.isAlphanum || c = '_' || c = '.' || c = '-' || c = '~'

/-- Escapes all bytes but those of plain characters and of the marks. -/
def escape (marks : List Char) (t : Text) : Except Fault Text :=
  match Text.utf8? t with
  | none => .error .unencodable
  | some bytes =>
    .ok <| .ofChars <| bytes.flatMap fun b =>
      let c := Char.ofNat b.toNat
      if b < 0x80 ∧ (isPlain c ∨ c ∈ marks) then [c] else escapeByte b

/-- The byte of an escape at the front, and the rest. -/
def escaped? : List Char → Option (UInt8 × List Char)
  | '%' :: a :: b :: rest =>
    match Hex.digit? a, Hex.digit? b with
    | some high, some low => some (UInt8.ofNat (16 * high + low), rest)
    | _, _ => none
  | _ => none

/-- The bytes that characters in ASCII spell with their escapes; `fuel` bounds their number. -/
def bytes : (fuel : Nat) → List Char → Bytes
  | 0, _ => []
  | fuel + 1, cs =>
    match escaped? cs, cs with
    | some (b, rest), _ => b :: bytes fuel rest
    | none, c :: rest => UInt8.ofNat c.toNat :: bytes fuel rest
    | none, [] => []

/-- The text that characters in ASCII spell with their escapes. -/
def unescape (cs : List Char) : Text := Text.decodeUtf8 (bytes cs.length cs)

/-- Whether an escape stays as it is where users are shown. -/
def staysEscaped (b : UInt8) : Bool :=
  b ≤ 0x20 || b = 0x7f || "%:@/?#".toList.any fun c => UInt8.ofNat c.toNat = b

/-- The characters of bytes; what is no character is escaped. -/
def display (bs : Bytes) : List Char :=
  (Text.utf8Pieces bs.length bs).flatMap fun piece =>
    match piece with
    | .ok c => [c]
    | .error bytes => bytes.reverse.flatMap escapeByte

/-- The text to show for characters in ASCII, of which `pending` are read as bytes, newest first. -/
def revealFrom : (fuel : Nat) → (pending : Bytes) → List Char → List Char
  | 0, pending, _ => display pending.reverse
  | fuel + 1, pending, cs =>
    match escaped? cs, cs with
    | some (b, rest), _ =>
      if staysEscaped b then display pending.reverse ++ cs.take 3 ++ revealFrom fuel [] rest
      else revealFrom fuel (b :: pending) rest
    | none, c :: rest => revealFrom fuel (UInt8.ofNat c.toNat :: pending) rest
    | none, [] => display pending.reverse

/-- Replaces the escapes that need not stay. -/
def reveal (cs : List Char) : Text := .ofChars (revealFrom (cs.length + 1) [] cs)

end BitcoinReserve.Url
