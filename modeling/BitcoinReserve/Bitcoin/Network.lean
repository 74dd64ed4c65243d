import BitcoinReserve.Text.Basic

/-!
# Bitcoin networks

What tells the networks apart: the marks of their addresses and the target of difficulty 1.
-/
namespace BitcoinReserve

inductive Network where
  | mainnet
  | testnet
  | regtest
  deriving DecidableEq, Repr

namespace Network

def name : Network → String
  | mainnet => "mainnet"
  | testnet => "testnet"
  | regtest => "regtest"

def all : List Network := [mainnet, testnet, regtest]

def named? (text : Text) : Option Network := all.find? (·.name = text)

def unknownMessage (text : Text) : Text := "Unknown network " ++ text

def keyHashVersion : Network → UInt8
  | mainnet => 0x00
  | testnet | regtest => 0x6f

def scriptHashVersion : Network → UInt8
  | mainnet => 0x05
  | testnet | regtest => 0xc4

/-- The characters that can begin a Base58Check address. -/
def legacyLeads : Network → List Char
  | mainnet => ['1', '3']
  | testnet | regtest => ['m', 'n', '2']

/-- The human-readable part of a segregated-witness address. -/
def witnessPart : Network → String
  | mainnet => "bc"
  | testnet => "tb"
  | regtest => "bcrt"

/-- The target of difficulty 1. -/
def powLimit : Network → Nat
  | mainnet | testnet => 0xffff0000000000000000000000000000000000000000000000000000
  | regtest => 0x7fffff0000000000000000000000000000000000000000000000000000000000

theorem named?_name (n : Network) : named? n.name = some n := by cases n <;> decide

end Network

end BitcoinReserve
