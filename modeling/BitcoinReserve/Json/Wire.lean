import BitcoinReserve.Bitcoin.Evidence
import BitcoinReserve.Json.Value

/-!
# Transactions and evidence as JSON

Byte strings travel in hexadecimal, with or without a mark in front.
-/
namespace BitcoinReserve

namespace Wire

inductive Fault where
  | notObject
  | missing (name : String)
  | notText (name : String)
  | notHex (name : String)
  | number (fault : Json.NumberFault)
  deriving DecidableEq, Repr

def field (j : Json) (name : String) : Except Fault Json :=
  match j with
  | .object _ =>
    match j.get? name with
    | some value => .ok value
    | none => .error (.missing name)
  | _ => .error .notObject

/-- Drops the first of the marks that opens the text. -/
def dropMark (marks : List (List Char)) (cs : List Char) : List Char :=
  match marks.find? (·.isPrefixOf cs) with
  | some mark => cs.drop mark.length
  | none => cs

def bytes (marks : List (List Char)) (name : String) : Json → Except Fault Bytes
  | .text s =>
    match s.chars?.bind fun cs => Hex.decodeChars (dropMark marks cs) with
    | some bs => .ok bs
    | none => .error (.notHex name)
  | _ => .error (.notText name)

end Wire

namespace Transaction

def hexMarks : List (List Char) := [['0', 'x'], ['0', 'X']]

/-- All four members are looked for before any of them is read. -/
def ofJson (j : Json) : Except Wire.Fault Transaction := do
  let version ← Wire.field j "version"
  let inputs ← Wire.field j "input_vector"
  let outputs ← Wire.field j "output_vector"
  let locktime ← Wire.field j "locktime"
  return {
    version := ← Wire.bytes hexMarks "version" version
    inputVector := ← Wire.bytes hexMarks "input_vector" inputs
    outputVector := ← Wire.bytes hexMarks "output_vector" outputs
    locktime := ← Wire.bytes hexMarks "locktime" locktime }

def toJson (tx : Transaction) : Json :=
  .object
    [("version", .text (Hex.encode tx.version)),
      ("input_vector", .text (Hex.encode tx.inputVector)),
      ("output_vector", .text (Hex.encode tx.outputVector)),
      ("locktime", .text (Hex.encode tx.locktime))]

end Transaction

namespace Evidence

def hexMarks : List (List Char) := [['0', 'x']]

def bytesOf (j : Json) (name : String) : Except Wire.Fault Bytes := do
  Wire.bytes hexMarks name (← Wire.field j name)

/-- Each member is read before the next one is looked for. -/
def ofJson (j : Json) : Except Wire.Fault Evidence := do
  let merkleBranch ← bytesOf j "merkle_proof"
  let txIndex ← (← Wire.field j "tx_index_in_block").toInt.mapError Wire.Fault.number
  let headers ← bytesOf j "bitcoin_headers"
  let coinbasePreimage ← bytesOf j "coinbase_preimage"
  let coinbaseBranch ← bytesOf j "coinbase_proof"
  return { merkleBranch, txIndex, headers, coinbasePreimage, coinbaseBranch }

def toJson (e : Evidence) : Json :=
  .object
    [("merkle_proof", .text (Hex.encode e.merkleBranch)),
      ("tx_index_in_block", .int e.txIndex),
      ("bitcoin_headers", .text (Hex.encode e.headers)),
      ("coinbase_preimage", .text (Hex.encode e.coinbasePreimage)),
      ("coinbase_proof", .text (Hex.encode e.coinbaseBranch))]

end Evidence

end BitcoinReserve
