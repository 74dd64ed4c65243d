import BitcoinReserve.Refusal
import BitcoinReserve.Table

/-!
# The token

Balances, their total, and a journal with one entry for every accepted mint, burn and transfer.
-/
namespace BitcoinReserve

namespace Token

inductive Action where
  | mint (holder : Text)
  | burn (holder : Text)
  | transfer (source target : Text)
  deriving DecidableEq, Repr

structure Entry where
  action : Action
  amount : Int
  sequence : Nat
  deriving DecidableEq, Repr

end Token

structure Token where
  balances : Table Text Int
  totalSupply : Int
  journal : List Token.Entry

namespace Token

def empty : Token := ⟨.empty, 0, []⟩

def balance (t : Token) (holder : Text) : Int := t.balances.getD holder 0

def write (t : Token) (action : Action) (amount : Int) : Token :=
  { t with journal := t.journal ++ [⟨action, amount, t.journal.length⟩] }

def mint (t : Token) (holder : Text) (amount : Int) : Except Refusal Token := do
  ensure (0 < amount) .tokenMintNotPositive
  return write
    { t with
      balances := t.balances.insert holder (t.balance holder + amount)
      totalSupply := t.totalSupply + amount } (.mint holder) amount

def burn (t : Token) (holder : Text) (amount : Int) : Except Refusal Token := do
  ensure (0 < amount) .tokenBurnNotPositive
  ensure (amount ≤ t.balance holder) (.tokensLacking holder (t.balance holder) amount)
  return write
    { t with
      balances := t.balances.insert holder (t.balance holder - amount)
      totalSupply := t.totalSupply - amount } (.burn holder) amount

/-- Moves tokens, unless the amount is not positive or the source holds less. -/
def transfer? (t : Token) (source target : Text) (amount : Int) : Option Token :=
  if 0 < amount ∧ amount ≤ t.balance source then
    let debited := { t with balances := t.balances.insert source (t.balance source - amount) }
    some <| write
      { debited with balances := debited.balances.insert target (debited.balance target + amount) }
      (.transfer source target) amount
  else none

end Token

end BitcoinReserve
