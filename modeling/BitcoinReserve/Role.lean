import BitcoinReserve.Text.Basic

/-!
# Roles

The capabilities that an actor may hold.
-/
namespace BitcoinReserve

inductive Role where
  | registrar
  | minter
  | attester
  | arbiter
  | watchdog
  | governance
  | redemptionFulfiller
  | syncer
  deriving DecidableEq, Repr

namespace Role

def name : Role → String
  | registrar => "registrar"
  | minter => "minter"
  | attester => "attester"
  | arbiter => "arbiter"
  | watchdog => "watchdog"
  | governance => "governance"
  | redemptionFulfiller => "redemption_fulfiller"
  | syncer => "syncer"

def all : List Role :=
  [registrar, minter, attester, arbiter, watchdog, governance, redemptionFulfiller, syncer]

def named? (text : Text) : Option Role := all.find? (·.name = text)

end Role

end BitcoinReserve
