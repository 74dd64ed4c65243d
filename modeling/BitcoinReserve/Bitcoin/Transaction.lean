import BitcoinReserve.Bitcoin.CompactSize
import BitcoinReserve.Bitcoin.Script
import BitcoinReserve.Crypto.Sha256
import BitcoinReserve.Text.Hex

/-!
# Transactions without witness data

The input and output vectors as lists, read from and written to bytes, and the transaction hash.
-/
namespace BitcoinReserve

structure TxInput where
  /-- In the byte order of the hash function. -/
  previousHash : Bytes
  previousIndex : Int
  script : Bytes
  sequence : Int
  deriving DecidableEq, Repr

structure TxOutput where
  value : Int
  script : Bytes
  deriving DecidableEq, Repr

/-- `count` items one after another. -/
def readMany {α ε : Type} (item : Bytes → Except ε (α × Bytes)) :
    Nat → Bytes → Except ε (List α × Bytes)
  | 0, bs => .ok ([], bs)
  | count + 1, bs =>
    match item bs with
    | .error e => .error e
    | .ok (a, rest) =>
      match readMany item count rest with
      | .error e => .error e
      | .ok (as, rest) => .ok (a :: as, rest)

namespace InputVector

inductive Fault where
  | size (fault : CompactSize.Fault)
  | truncatedOutpoint
  | truncatedInput
  | trailing
  deriving DecidableEq, Repr

def Fault.message : Fault → String
  | .size fault => fault.message
  | .truncatedOutpoint => "Truncated outpoint"
  | .truncatedInput => "Truncated input"
  | .trailing => "Trailing bytes after inputs"

def Fault.notice (f : Fault) : Notice := ⟨.badInputVector, f.message⟩

def readItem (bs : Bytes) : Except Fault (TxInput × Bytes) :=
  if !Bytes.holds 36 bs then .error .truncatedOutpoint
  else
    match CompactSize.read (bs.drop 36) with
    | .error f => .error (.size f)
    | .ok (n, rest) =>
      if !Bytes.holds (n + 4) rest then .error .truncatedInput
      else
        .ok (⟨bs.take 32, Bytes.toNatLE ((bs.drop 32).take 4), rest.take n,
          Bytes.toNatLE ((rest.drop n).take 4)⟩, rest.drop (n + 4))

/-- Reads a count and that many inputs, which must fill the vector. -/
def decode (vector : Bytes) : Except Fault (List TxInput) :=
  match CompactSize.read vector with
  | .error f => .error (.size f)
  | .ok (count, rest) =>
    match readMany readItem count rest with
    | .error f => .error f
    | .ok (inputs, []) => .ok inputs
    | .ok (_, _ :: _) => .error .trailing

def encodeItem? (input : TxInput) : Option Bytes := do
  let index ← Bytes.ofIntLE? 4 input.previousIndex
  let sequence ← Bytes.ofIntLE? 4 input.sequence
  return input.previousHash ++ index ++ CompactSize.encode input.script.length ++ input.script ++
    sequence

/-- Fails when an index or a sequence number does not fit four bytes. -/
def encode? (inputs : List TxInput) : Option Bytes := do
  let items ← inputs.mapM encodeItem?
  return CompactSize.encode inputs.length ++ items.flatten

/-- Whether the bytes are the vector of at least one input and nothing else. -/
def valid (vector : Bytes) : Bool :=
  match decode vector with
  | .ok (_ :: _) => true
  | _ => false

end InputVector

namespace OutputVector

inductive Fault where
  | size (fault : CompactSize.Fault)
  | truncatedValue
  | truncatedScript
  | trailing
  deriving DecidableEq, Repr

def Fault.message : Fault → String
  | .size fault => fault.message
  | .truncatedValue => "Truncated output value"
  | .truncatedScript => "Truncated output script"
  | .trailing => "Trailing bytes after outputs"

def Fault.notice (f : Fault) : Notice := ⟨.badOutputVector, f.message⟩

def readItem (bs : Bytes) : Except Fault (TxOutput × Bytes) :=
  if !Bytes.holds 8 bs then .error .truncatedValue
  else
    match CompactSize.read (bs.drop 8) with
    | .error f => .error (.size f)
    | .ok (n, rest) =>
      if !Bytes.holds n rest then .error .truncatedScript
      else .ok (⟨Bytes.toNatLE (bs.take 8), rest.take n⟩, rest.drop n)

/-- Reads a count and that many outputs, which must fill the vector. -/
def decode (vector : Bytes) : Except Fault (List TxOutput) :=
  match CompactSize.read vector with
  | .error f => .error (.size f)
  | .ok (count, rest) =>
    match readMany readItem count rest with
    | .error f => .error f
    | .ok (outputs, []) => .ok outputs
    | .ok (_, _ :: _) => .error .trailing

def encodeItem? (output : TxOutput) : Option Bytes := do
  let value ← Bytes.ofIntLE? 8 output.value
  return value ++ CompactSize.encode output.script.length ++ output.script

/-- Fails when a value does not fit eight bytes. -/
def encode? (outputs : List TxOutput) : Option Bytes := do
  let items ← outputs.mapM encodeItem?
  return CompactSize.encode outputs.length ++ items.flatten

/-- Whether the bytes are the vector of at least one output and nothing else. -/
def valid (vector : Bytes) : Bool :=
  match decode vector with
  | .ok (_ :: _) => true
  | _ => false

/-- Whether some output returns data that starts with the 32-byte challenge. -/
def carries (vector challenge : Bytes) : Bool :=
  if challenge.length ≠ 32 ∨ !valid vector then false
  else
    match decode vector with
    | .error _ => false
    | .ok outputs =>
      outputs.any fun output =>
        match Script.payload? output.script with
        | some data => data.take 32 = challenge
        | none => false

end OutputVector

structure Transaction where
  version : Bytes
  inputVector : Bytes
  outputVector : Bytes
  locktime : Bytes
  deriving DecidableEq, Repr

namespace Transaction

def serialize (tx : Transaction) : Bytes :=
  tx.version ++ tx.inputVector ++ tx.outputVector ++ tx.locktime

/-- The hash in the byte order of the hash function, which is the merkle leaf. -/
def hash (tx : Transaction) : Bytes := hash256 tx.serialize

end Transaction

/-- The form of a transaction hash that people read: reversed, in hexadecimal. -/
def displayTxid (hash : Bytes) : Text := Hex.encode hash.reverse

end BitcoinReserve
