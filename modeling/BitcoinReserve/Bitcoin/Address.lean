import BitcoinReserve.Bitcoin.Base58
import BitcoinReserve.Bitcoin.Bech32
import BitcoinReserve.Bitcoin.Network
import BitcoinReserve.Bitcoin.Transaction

/-!
# Addresses

An address names a destination: a script type and the hash that the script commits to. Base58Check
serves key and script hashes, Bech32 and Bech32m serve witness programs.
-/
namespace BitcoinReserve

structure Destination where
  scriptType : ScriptType
  hash : Bytes
  deriving DecidableEq, Repr

namespace Address

inductive Fault where
  | outOfRange
  | unsupportedLead (network : Network) (lead : Text)
  | base58
  | payloadLength (length : Nat)
  | unknownVersion (version : UInt8)
  | bech32
  | unsupportedProgram (version length : Nat)
  | noScript (type : ScriptType)
  deriving DecidableEq, Repr

namespace Fault

def kind : Fault → Kind
  | outOfRange => .invalidAddressLength
  | unsupportedLead _ _ | unknownVersion _ => .invalidAddressPrefix
  | base58 | payloadLength _ | bech32 | unsupportedProgram _ _ | noScript _ =>
    .invalidAddressFormat

def message : Fault → Text
  | outOfRange => "Address length outside 14-74"
  | unsupportedLead network lead => "Unsupported prefix for " ++ network.name ++ ": " ++ lead
  | base58 => "Base58Check decoding failed"
  | payloadLength n => s!"Unexpected payload length {n}"
  | unknownVersion version => "Unknown version byte 0x" ++ Hex.encode [version]
  | bech32 => "Bech32 decoding failed"
  | unsupportedProgram version n =>
    s!"Unsupported witness version {version} with {n}-byte program"
  | noScript type => s!"No script for {type.name}"

def notice (f : Fault) : Notice := ⟨f.kind, f.message⟩

end Fault

def decodeLegacy (network : Network) (address : Text) : Except Fault Destination :=
  match Base58.decodeCheck? address with
  | none => .error .base58
  | some payload =>
    match payload with
    | version :: hash =>
      if payload.length ≠ 21 then .error (.payloadLength payload.length)
      else if version = network.keyHashVersion then .ok ⟨.p2pkh, hash⟩
      else if version = network.scriptHashVersion then .ok ⟨.p2sh, hash⟩
      else .error (.unknownVersion version)
    | [] => .error (.payloadLength 0)

def decodeWitness (network : Network) (address : Text) : Except Fault Destination :=
  match Bech32.decode? network.witnessPart address with
  | none => .error .bech32
  | some (version, program) =>
    if version = 0 ∧ program.length = 20 then .ok ⟨.p2wpkh, program⟩
    else if version = 0 ∧ program.length = 32 then .ok ⟨.p2wsh, program⟩
    else if version = 1 ∧ program.length = 32 then .ok ⟨.p2tr, program⟩
    else .error (.unsupportedProgram version program.length)

/-- Whether the text opens with the network's human-readable part and the separator. -/
def opensWitness (network : Network) (address : Text) : Bool :=
  let opening := network.witnessPart.toList ++ ['1']
  (address.take opening.length).chars?.map (·.map Char.toLower) = some opening

/-- The destination that an address of the network names. -/
def decode (network : Network) (address : Text) : Except Fault Destination :=
  if address.length < 14 ∨ 74 < address.length then .error .outOfRange
  else if opensWitness network address then decodeWitness network address
  else if address.take 1 ∈ network.legacyLeads.map (fun c => Text.ofChars [c]) then
    decodeLegacy network address
  else .error (.unsupportedLead network (address.take 4))

def valid (network : Network) (address : Text) : Bool := (decode network address).toBool

/-- The address of a destination. A destination without a form of its own is written as a witness
program of version 0. -/
def encode (network : Network) (d : Destination) : Text :=
  match d.scriptType with
  | .p2pkh => Base58.encodeCheck (network.keyHashVersion :: d.hash)
  | .p2sh => Base58.encodeCheck (network.scriptHashVersion :: d.hash)
  | .p2tr => Bech32.encode network.witnessPart 1 d.hash
  | _ => Bech32.encode network.witnessPart 0 d.hash

end Address

namespace Destination

inductive ScriptFault where
  | address (fault : Address.Fault)
  /-- The program's length does not fit the byte that states it. -/
  | programTooLong
  deriving DecidableEq, Repr

def witnessScript (opcode : UInt8) (program : Bytes) : Except ScriptFault Bytes :=
  if program.length < 256 then .ok (opcode :: UInt8.ofNat program.length :: program)
  else .error .programTooLong

/-- The output script that pays the destination. -/
def script (d : Destination) : Except ScriptFault Bytes :=
  match d.scriptType with
  | .p2pkh => .ok ([0x76, 0xa9, 20] ++ d.hash ++ [0x88, 0xac])
  | .p2sh => .ok ([0xa9, 20] ++ d.hash ++ [0x87])
  | .p2wpkh | .p2wsh => witnessScript 0x00 d.hash
  | .p2tr => witnessScript 0x51 d.hash
  | .opReturn | .nonstandard => .error (.address (.noScript d.scriptType))

/-- Whether a script has the destination's type and commits to its hash. -/
def isPaidBy (d : Destination) (script : Bytes) : Bool :=
  Script.classify script = d.scriptType && Script.committed? script = some d.hash

/-- The sum of the outputs that pay the destination. -/
def amountPaid (d : Destination) (outputs : List TxOutput) : Int :=
  outputs.foldr (fun o paid => if d.isPaidBy o.script then o.value + paid else paid) 0

end Destination

end BitcoinReserve
