import BitcoinReserve.Crypto.Sha256
import BitcoinReserve.Text.Basic
import BitcoinReserve.Text.Blank

/-!
# Base58Check

Bytes as a number in base 58, a leading zero byte as a leading `1`, and a checksum of four bytes.
-/
namespace BitcoinReserve.Base58

def alphabet : List Char := "123456789ABCDEFGHJKLMNPQRSTUVWXYZabcdefghijkmnopqrstuvwxyz".toList

/-- The digits of `n`, most significant first, without leading zeros; `fuel` bounds their number. -/
def digits (base fuel n : Nat) : List Nat :=
  match fuel with
  | 0 => []
  | fuel + 1 => if n = 0 then [] else digits base fuel (n / base) ++ [n % base]

def ofDigits (base : Nat) (ds : List Nat) : Nat := ds.foldl (fun n d => base * n + d) 0

def digitChar (d : Nat) : Char := alphabet.getD d '1'

def charDigit? (c : Char) : Option Nat := alphabet.idxOf? c

def encode (bs : Bytes) : List Char :=
  let zeros := bs.takeWhile (· = 0)
  let n := Bytes.toNatBE bs
  zeros.map (fun _ => '1') ++ (digits 58 n n).map digitChar

def decode? (cs : List Char) : Option Bytes := do
  let ones := cs.takeWhile (· = '1')
  let ds ← (cs.dropWhile (· = '1')).mapM charDigit?
  let n := ofDigits 58 ds
  return ones.map (fun _ => 0) ++ (digits 256 n n).map UInt8.ofNat

def checksum (payload : Bytes) : Bytes := (hash256 payload).take 4

def encodeCheck (payload : Bytes) : Text := .ofChars (encode (payload ++ checksum payload))

/-- Reads a payload with its checksum; blanks at the end of the text do not count. -/
def decodeCheck? (text : Text) : Option Bytes := do
  let bs ← decode? (Text.trimRight (← text.chars?))
  let payload := bs.take (bs.length - 4)
  if bs.drop (bs.length - 4) = checksum payload then some payload else none

end BitcoinReserve.Base58
