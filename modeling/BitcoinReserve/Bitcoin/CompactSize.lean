import BitcoinReserve.Bytes
import BitcoinReserve.Notice

/-!
# Compact sizes

Numbers below 2 ^ 64 in one, three, five or nine bytes. The writer takes the shortest form, the
reader takes any.
-/
namespace BitcoinReserve.CompactSize

/-- The shortest form of a number below 2 ^ 64. -/
def encode (n : Nat) : Bytes :=
  if n < 0xfd then Bytes.ofNatLE 1 n
  else if n ≤ 0xffff then 0xfd :: Bytes.ofNatLE 2 n
  else if n ≤ 0xffffffff then 0xfe :: Bytes.ofNatLE 4 n
  else 0xff :: Bytes.ofNatLE 8 n

inductive RangeFault where
  | negative
  | tooLarge
  deriving DecidableEq, Repr

def encodeInt : Int → Except RangeFault Bytes
  | .ofNat n => if n < Bytes.span 8 then .ok (encode n) else .error .tooLarge
  | .negSucc _ => .error .negative

inductive Fault where
  | pastEnd
  | truncated (width : Nat)
  deriving DecidableEq, Repr

def Fault.message : Fault → String
  | .pastEnd => "Read past end of buffer"
  | .truncated width => s!"Truncated {width}-byte varint"

def Fault.notice (f : Fault) : Notice := ⟨.badVarInt, f.message⟩

/-- How many bytes follow a first byte. -/
def width (first : UInt8) : Nat :=
  if first < 0xfd then 0 else if first = 0xfd then 2 else if first = 0xfe then 4 else 8

/-- The number at the front and the bytes after it. -/
def read : Bytes → Except Fault (Nat × Bytes)
  | [] => .error .pastEnd
  | first :: rest =>
    if first < 0xfd then .ok (first.toNat, rest)
    else if Bytes.holds (width first) rest then
      .ok (Bytes.toNatLE (rest.take (width first)), rest.drop (width first))
    else .error (.truncated (width first))

/-- The number that starts at `offset` and how many bytes it takes. -/
def readAt (data : Bytes) (offset : Nat) : Except Fault (Nat × Nat) :=
  let tail := data.drop offset
  match read tail with
  | .ok (n, rest) => .ok (n, tail.length - rest.length)
  | .error f => .error f

inductive OffsetFault where
  | beforeStart
  | size (fault : Fault)
  deriving DecidableEq, Repr

/-- The same for a signed offset. Below zero it counts from the end, and so do the positions after
the first byte until they reach zero, where the data begins again. -/
def readFrom (data : Bytes) : Int → Except OffsetFault (Nat × Nat)
  | .ofNat offset => (readAt data offset).mapError .size
  | .negSucc back =>
    match data.reverse[back]? with
    | none => .error .beforeStart
    | some first =>
      let start : Int := -back
      let stop := start + width first
      if first < 0xfd then .ok (first.toNat, 1)
      else if data.length < stop then .error (.size (.truncated (width first)))
      else .ok (Bytes.toNatLE (Bytes.between data start stop), 1 + width first)

end BitcoinReserve.CompactSize
