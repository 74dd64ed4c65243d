import BitcoinReserve.Bytes
import BitcoinReserve.Text.Basic

/-!
# Output scripts

The standard forms of an output script, the hash each commits to, and the data carried by a script
that only returns.
-/
namespace BitcoinReserve

inductive ScriptType where
  | p2pkh
  | p2sh
  | p2wpkh
  | p2wsh
  | p2tr
  | opReturn
  | nonstandard
  deriving DecidableEq, Repr

namespace ScriptType

def name : ScriptType → String
  | p2pkh => "p2pkh"
  | p2sh => "p2sh"
  | p2wpkh => "p2wpkh"
  | p2wsh => "p2wsh"
  | p2tr => "p2tr"
  | opReturn => "op_return"
  | nonstandard => "nonstandard"

def all : List ScriptType := [p2pkh, p2sh, p2wpkh, p2wsh, p2tr, opReturn, nonstandard]

def named? (text : Text) : Option ScriptType := all.find? (·.name = text)

end ScriptType

namespace Script

def classify (script : Bytes) : ScriptType :=
  if script.length = 25 ∧ script.take 3 = [0x76, 0xa9, 20] ∧ script.drop 23 = [0x88, 0xac] then
    .p2pkh
  else if script.length = 23 ∧ script.take 2 = [0xa9, 20] ∧ script.drop 22 = [0x87] then .p2sh
  else if script.length = 22 ∧ script.take 2 = [0x00, 20] then .p2wpkh
  else if script.length = 34 ∧ script.take 2 = [0x00, 32] then .p2wsh
  else if script.length = 34 ∧ script.take 2 = [0x51, 32] then .p2tr
  else if script.head? = some 0x6a then .opReturn
  else .nonstandard

/-- The hash or witness program that a standard script commits to. -/
def committed? (script : Bytes) : Option Bytes :=
  match classify script with
  | .p2pkh => some ((script.drop 3).take 20)
  | .p2sh => some ((script.drop 2).take 20)
  | .p2wpkh | .p2wsh | .p2tr => some (script.drop 2)
  | .opReturn | .nonstandard => none

/-- The data of a returning script that makes at most one push of stated length. -/
def payload? : Bytes → Option Bytes
  | [0x6a] => some []
  | 0x6a :: push :: rest =>
    let exactly (n : Nat) (data : Bytes) := if data.length = n then some data else none
    if 0 < push ∧ push < 0x4c then exactly push.toNat rest
    else
      match push, rest with
      | 0x4c, n :: data => exactly n.toNat data
      | 0x4d, low :: high :: data => exactly (Bytes.toNatLE [low, high]) data
      | _, _ => none
  | _ => none

end Script

end BitcoinReserve
