import BitcoinReserve.Bytes

/-!
# Distinguished encoding of signatures

A signature is a sequence of two non-negative integers. Lengths and integers are read in their
shortest form only, and nothing may follow the second integer or the sequence.
-/
namespace BitcoinReserve.Der

/-- Base-256 digits, most significant first, without leading zeros; `fuel` bounds their number. -/
def digits (fuel n : Nat) : Bytes :=
  match fuel with
  | 0 => []
  | fuel + 1 => if n = 0 then [] else digits fuel (n / 256) ++ [UInt8.ofNat n]

def encodeLength (n : Nat) : Bytes :=
  if n < 128 then [UInt8.ofNat n]
  else
    let ds := digits n n
    UInt8.ofNat (128 + ds.length) :: ds

/-- The magnitude, after a zero byte when its top bit is set or when it is empty. -/
def magnitude (n : Nat) : Bytes :=
  match digits n n with
  | [] => [0]
  | b :: bs => if b < 128 then b :: bs else 0 :: b :: bs

def encodeInteger (n : Nat) : Bytes :=
  let body := magnitude n
  0x02 :: (encodeLength body.length ++ body)

def encodePair (r s : Nat) : Bytes :=
  let body := encodeInteger r ++ encodeInteger s
  0x30 :: (encodeLength body.length ++ body)

/-- A length and the bytes after it. -/
def decodeLength? : Bytes → Option (Nat × Bytes)
  | [] => none
  | b :: rest =>
    if b < 128 then some (b.toNat, rest)
    else
      let width := b.toNat - 128
      match rest.take width with
      | [] => none
      | top :: _ =>
        if rest.length < width ∨ top = 0 ∨ (width = 1 ∧ top < 128) then none
        else some (Bytes.toNatBE (rest.take width), rest.drop width)

/-- The content of an element with the given tag and the bytes after the element. -/
def decodeElement? (tag : UInt8) : Bytes → Option (Bytes × Bytes)
  | [] => none
  | b :: rest =>
    if b ≠ tag then none
    else
      match decodeLength? rest with
      | none => none
      | some (n, body) => if n > body.length then none else some (body.take n, body.drop n)

def decodeInteger? (bs : Bytes) : Option (Nat × Bytes) :=
  match decodeElement? 0x02 bs with
  | none => none
  | some (content, rest) =>
    match content with
    | [] => none
    | [b] => if b < 128 then some (b.toNat, rest) else none
    | b :: c :: _ =>
      if b ≥ 128 ∨ (b = 0 ∧ c < 128) then none else some (Bytes.toNatBE content, rest)

def decodePair? (bs : Bytes) : Option (Nat × Nat) :=
  match decodeElement? 0x30 bs with
  | some (content, []) =>
    match decodeInteger? content with
    | none => none
    | some (r, rest) =>
      match decodeInteger? rest with
      | some (s, []) => some (r, s)
      | _ => none
  | _ => none

end BitcoinReserve.Der
