import BitcoinReserve.Text.Basic

/-!
# Objective violations

What anyone can hold against a reserve from the oracle's data, and what a check of it may find.
-/
namespace BitcoinReserve

inductive Violation where
  | insufficientReserves
  | staleAttestations
  deriving DecidableEq, Repr

namespace Violation

def name : Violation → String
  | insufficientReserves => "INSUFFICIENT_RESERVES"
  | staleAttestations => "STALE_ATTESTATIONS"

def named? (code : Text) : Option Violation :=
  [insufficientReserves, staleAttestations].find? (·.name = code)

inductive Finding where
  | violated
  | notObjective
  | fresh
  | stale
  | sufficient
  deriving DecidableEq, Repr

/-- Why there is no violation. -/
def Finding.detail : Finding → String
  | violated => ""
  | notObjective => "Not an objective violation"
  | fresh => "Attestations are fresh"
  | stale => "Reserves are stale, cannot determine violation"
  | sufficient => "Reserves are sufficient"

end Violation

end BitcoinReserve
