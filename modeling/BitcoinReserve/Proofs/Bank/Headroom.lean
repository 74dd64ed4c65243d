import BitcoinReserve.Proofs.Bank.Cover
import BitcoinReserve.Proofs.Ledger.Balance

/-!
# Headroom

What can still be minted against a reserve is what its backing and its cap both leave above the amount
minted. An active reserve mints up to its headroom and not beyond, and every mint takes its amount
from it.
-/
namespace BitcoinReserve

namespace Account

variable {a : Account} {p : Parameters} {amount : Int} {now : Option Int}

theorem le_availableToMint_iff (positive : 0 < amount) :
    amount ≤ a.availableToMint ↔
      a.minted + amount ≤ a.mintingCap ∧ a.minted + amount ≤ a.backing := by
  unfold availableToMint
  omega

theorem availableToMint_minted (positive : 0 < amount) (within : amount ≤ a.availableToMint) :
    ({ a with minted := a.minted + amount } : Account).availableToMint =
      a.availableToMint - amount := by
  rw [le_availableToMint_iff positive] at within
  simp only [availableToMint]
  omega

theorem backingIsOld_eq_false_iff {now : Int} :
    a.backingIsOld p now = false ↔
      ∃ updated, a.backingUpdatedAt = some updated ∧ now - updated ≤ p.maxStaleness := by
  unfold backingIsOld
  cases a.backingUpdatedAt with
  | none => simp
  | some updated => simp

/-- The account lets this amount be minted, at a time if one is given. -/
structure Admits (a : Account) (p : Parameters) (amount : Int) (now : Option Int) : Prop where
  active : a.status = .active
  thawed : a.frozen = false
  recent : ∀ time, now = some time →
    ∃ updated, a.backingUpdatedAt = some updated ∧ time - updated ≤ p.maxStaleness
  within : amount ≤ a.availableToMint

theorem recent_iff :
    (∀ time, now = some time →
        ∃ updated, a.backingUpdatedAt = some updated ∧ time - updated ≤ p.maxStaleness) ↔
      now.any (a.backingIsOld p) = false := by
  cases now with
  | none => simp
  | some time =>
    simp only [Option.some.injEq, forall_eq', Option.any_some, backingIsOld_eq_false_iff]

/-- An account that lets anything be minted can mint, and can still after that. -/
theorem Admits.canMint (admits : a.Admits p amount now) (positive : 0 < amount) :
    a.canMint = true ∧ ({ a with minted := a.minted + amount } : Account).canMint = true := by
  obtain ⟨-, backed⟩ := (le_availableToMint_iff positive).mp admits.within
  have covered : ¬ a.backing < a.minted := by omega
  have covered' : ¬ a.backing < a.minted + amount := by omega
  simp [Account.canMint, underBacked, admits.active, admits.thawed, covered, covered']

end Account

namespace Token

variable {t t' : Token} {holder : Text} {amount : Int}

theorem balance_of_mint (minted : t.mint holder amount = .ok t') (other : Text) :
    t'.balance other = t.balance other + if holder = other then amount else 0 := by
  obtain ⟨-, -, balances⟩ := mint_eq_ok minted
  rw [balance, balances, Table.getD, Table.get?_insert]
  split
  · rename_i here
    rw [here, Option.getD_some]
  · rw [Int.add_zero, balance, Table.getD]

theorem exists_mint (t : Token) (holder : Text) (positive : 0 < amount) :
    ∃ t', t.mint holder amount = .ok t' := by
  simp [mint, ensure, positive, pure, Except.pure]

end Token

namespace Ledger

variable {l l' : Ledger} {auth : Authority} {p : Parameters} {caller reserve holder : Text}
  {a : Account} {amount total : Int} {now : Option Int}

/-- What minting an amount against an account changes: the account, the total and the token by that
amount, and nothing else. -/
structure Mints (l : Ledger) (reserve holder : Text) (a : Account) (amount : Int) (l' : Ledger) :
    Prop where
  account : l'.accounts.get? reserve = some { a with minted := a.minted + amount }
  headroom : ({ a with minted := a.minted + amount } : Account).availableToMint =
    a.availableToMint - amount
  others : ∀ other, other ≠ reserve → l'.accounts.get? other = l.accounts.get? other
  owners : l'.walletOwners = l.walletOwners
  total : l'.totalMinted = l.totalMinted + amount
  supply : l'.token.totalSupply = l.token.totalSupply + amount
  received : l'.token.balance holder = l.token.balance holder + amount
  spared : ∀ other, other ≠ holder → l'.token.balance other = l.token.balance other

theorem mint_eq_ok_iff (found : l.accounts.get? reserve = some a)
    (allowed : auth.allows caller .minter = true) (positive : 0 < amount) :
    (∃ minted, l.mint auth p caller reserve holder amount now = .ok minted) ↔
      a.Admits p amount now := by
  obtain ⟨token, issued⟩ := l.token.exists_mint holder positive
  simp only [mint, Check.bind_eq_ok_iff, Check.require_eq_ok_iff, Check.account_eq_ok_iff,
    ensure_eq_ok_iff, Check.pure_eq_ok_iff, exists_const, found, allowed, positive, issued]
  constructor
  · rintro ⟨_, -, -, b, same, thawed, active, recent, capped, backed, _⟩
    cases same
    exact ⟨active, thawed, Account.recent_iff.mpr recent,
      (Account.le_availableToMint_iff positive).mpr ⟨capped, backed⟩⟩
  · intro admits
    obtain ⟨capped, backed⟩ := (Account.le_availableToMint_iff positive).mp admits.within
    exact ⟨_, trivial, trivial, a, rfl, admits.thawed, admits.active,
      Account.recent_iff.mp admits.recent, capped, backed, token, rfl, rfl⟩

theorem mints_of_mint (found : l.accounts.get? reserve = some a)
    (minted : l.mint auth p caller reserve holder amount now = .ok (total, l')) :
    total = a.minted + amount ∧ l.Mints reserve holder a amount l' := by
  obtain ⟨-, positive, b, token, found', -, -, rfl, capped, backed, issued, rfl⟩ :=
    mint_eq_ok minted
  cases found.symm.trans found'
  have within : amount ≤ a.availableToMint :=
    (Account.le_availableToMint_iff positive).mpr ⟨capped, backed⟩
  obtain ⟨-, supply, -⟩ := Token.mint_eq_ok issued
  refine ⟨rfl, ?_⟩
  constructor
  · exact Table.get?_insert_self ..
  · exact Account.availableToMint_minted positive within
  · exact fun other apart => Table.get?_insert_of_ne _ _ apart.symm
  · rfl
  · rfl
  · exact supply
  · rw [Token.balance_of_mint issued, if_pos rfl]
  · intro other apart
    rw [Token.balance_of_mint issued, if_neg apart.symm, Int.add_zero]

theorem isOperational_of_get? (found : l.accounts.get? reserve = some a) :
    l.isOperational reserve = .ok a.canMint := by
  simp [isOperational, account, found, bind, Except.bind, pure, Except.pure]

end Ledger

namespace Bank

open BitcoinReserve.Action

variable {s : Bank} {caller reserve holder : Text} {a : Account} {amount : Int} {now : Option Int}

theorem step_mint_succeeds_iff :
    (∃ answer, (s.step (.mint caller reserve holder amount now)).1 = .ok answer) ↔
      ∃ minted, s.ledger.mint s.authority s.params caller reserve holder amount now =
        .ok minted := by
  simp only [step, perform, orFail, onLedger]
  cases s.ledger.mint s.authority s.params caller reserve holder amount now with
  | ok minted => simp
  | error r => simp

/-- A minter mints a positive amount exactly when the reserve is active and not frozen, its backing
is recent and the amount is within the headroom, which is then smaller by it. -/
theorem step_headroom (s : Bank) (reserve : Text) (a : Account)
    (found : s.ledger.accounts.get? reserve = some a) :
    (∀ caller holder amount now, 0 < amount → s.authority.allows caller .minter = true →
      ((∃ answer, (s.step (.mint caller reserve holder amount now)).1 = .ok answer) ↔
        a.Admits s.params amount now)) ∧
    ∀ caller holder amount now answer,
      (s.step (.mint caller reserve holder amount now)).1 = .ok answer →
      let t := (s.step (.mint caller reserve holder amount now)).2
      answer = .number (a.minted + amount) ∧ s.ledger.Mints reserve holder a amount t.ledger ∧
        s.ledger.isOperational reserve = .ok true ∧ t.ledger.isOperational reserve = .ok true := by
  refine ⟨fun caller holder amount now positive allowed => ?_,
    fun caller holder amount now answer => ?_⟩
  · rw [step_mint_succeeds_iff, Ledger.mint_eq_ok_iff found allowed positive]
  · rcases step_mint caller reserve holder amount now s with
      ⟨r, refused⟩ | ⟨total, l, minted, done⟩
    · rw [refused]
      exact nofun
    · rw [done]
      rintro ⟨rfl⟩
      obtain ⟨allowed, positive, -⟩ := Ledger.mint_eq_ok minted
      have admits : a.Admits s.params amount now :=
        (Ledger.mint_eq_ok_iff found allowed positive).mp ⟨_, minted⟩
      obtain ⟨rfl, mints⟩ := Ledger.mints_of_mint found minted
      obtain ⟨before, after⟩ := admits.canMint positive
      refine ⟨rfl, mints, ?_, ?_⟩
      · rw [Ledger.isOperational_of_get? found, before]
      · rw [Ledger.isOperational_of_get? mints.account, after]

/-- A reserve with a backing of 7 and 5 minted mints 2 more, but not 3. -/
theorem step_headroom_minting :
    let s := (new .everyone ⟨1, 1⟩ .testing).run minting
    let t := (s.step (.mint "minter" "reserve" "holder" 2 (some 4))).2
    ∃ a, s.ledger.accounts.get? "reserve" = some a ∧ a.availableToMint = 2 ∧
      s.ledger.Mints "reserve" "holder" a 2 t.ledger ∧
      t.ledger.isOperational "reserve" = .ok true ∧
      ¬ ∃ answer, (s.step (.mint "minter" "reserve" "holder" 3 (some 4))).1 = .ok answer := by
  intro s t
  have registered : ("reserve" : Text) ∈ s.ledger.accounts.keys := by decide +kernel
  obtain ⟨a, found⟩ := Table.mem_keys_iff.mp registered
  have read : (s.ledger.accounts.get? "reserve").map (fun a =>
      (a.availableToMint, a.status, a.frozen, a.backingUpdatedAt)) =
        some (2, .active, false, some 3) := by decide +kernel
  rw [found, Option.map_some, Option.some.injEq, Prod.mk.injEq, Prod.mk.injEq, Prod.mk.injEq]
    at read
  obtain ⟨headroom, active, thawed, updated⟩ := read
  obtain ⟨succeeds, minted⟩ := step_headroom s "reserve" a found
  have admits : a.Admits s.params 2 (some 4) := by
    refine ⟨active, thawed, fun time given => ⟨3, updated, ?_⟩, headroom.ge⟩
    cases given
    decide +kernel
  obtain ⟨answer, done⟩ :=
    (succeeds "minter" "holder" 2 (some 4) (by decide) rfl).mpr admits
  obtain ⟨-, mints, -, after⟩ := minted _ _ _ _ answer done
  refine ⟨a, found, headroom, mints, after, fun more => ?_⟩
  have beyond := ((succeeds "minter" "holder" 3 (some 4) (by decide) rfl).mp more).within
  omega

end Bank

end BitcoinReserve
