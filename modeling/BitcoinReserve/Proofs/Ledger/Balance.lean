import BitcoinReserve.Proofs.Ledger.Amendment
import BitcoinReserve.Proofs.Table

/-!
# The balance of the ledger

What is minted against the reserves, the recorded total, the token's supply and the holders' balances
agree, and nothing is minted beyond a cap. Every write of the ledger keeps this.
-/
namespace BitcoinReserve

namespace Token

/-- The supply is what the holders have, and nobody has less than nothing. -/
structure Balanced (t : Token) : Prop where
  supply_eq : t.totalSupply = t.balances.sum id
  balance_nonneg (holder : Text) : 0 ≤ t.balance holder

variable {t t' : Token} {holder source target : Text} {amount : Int}

theorem balance_eq_amountAt (t : Token) (holder : Text) :
    t.balance holder = t.balances.amountAt id holder := by
  simp [balance, Table.getD, Table.amountAt]

theorem mint_eq_ok (h : t.mint holder amount = .ok t') :
    0 < amount ∧ t'.totalSupply = t.totalSupply + amount ∧
      t'.balances = t.balances.insert holder (t.balance holder + amount) := by
  simp only [mint, Check.bind_eq_ok_iff, ensure_eq_ok_iff, Check.pure_eq_ok_iff, exists_const] at h
  obtain ⟨positive, rfl⟩ := h
  exact ⟨positive, rfl, rfl⟩

theorem burn_eq_ok (h : t.burn holder amount = .ok t') :
    0 < amount ∧ amount ≤ t.balance holder ∧ t'.totalSupply = t.totalSupply - amount ∧
      t'.balances = t.balances.insert holder (t.balance holder - amount) := by
  simp only [burn, Check.bind_eq_ok_iff, ensure_eq_ok_iff, Check.pure_eq_ok_iff, exists_const] at h
  obtain ⟨positive, covered, rfl⟩ := h
  exact ⟨positive, covered, rfl, rfl⟩

/-- A transfer is a debit and then a credit, also of the source itself. -/
theorem transfer?_eq_some (h : t.transfer? source target amount = some t') :
    0 < amount ∧ amount ≤ t.balance source ∧ ∃ debited : Token,
      debited.totalSupply = t.totalSupply - amount ∧
      debited.balances = t.balances.insert source (t.balance source - amount) ∧
      t'.totalSupply = debited.totalSupply + amount ∧
      t'.balances = debited.balances.insert target (debited.balance target + amount) := by
  unfold transfer? at h
  split at h
  · rename_i covered
    cases h
    refine ⟨covered.1, covered.2,
      { t with
        balances := t.balances.insert source (t.balance source - amount)
        totalSupply := t.totalSupply - amount }, rfl, rfl, ?_, rfl⟩
    simp only [write]
    omega
  · cases h

/-- Setting one balance moves the supply by the difference. -/
theorem Balanced.set (h : t.Balanced) {value : Int} (nonneg : 0 ≤ value)
    (supply : t'.totalSupply = t.totalSupply - t.balance holder + value)
    (balances : t'.balances = t.balances.insert holder value) : t'.Balanced where
  supply_eq := by
    rw [supply, balances, Table.sum_insert, h.supply_eq, balance_eq_amountAt]
    rfl
  balance_nonneg other := by
    have kept := h.balance_nonneg other
    rw [balance_eq_amountAt] at kept ⊢
    rw [balances, Table.amountAt_insert]
    split
    · exact nonneg
    · exact kept

theorem Balanced.mint (h : t.Balanced) (minted : t.mint holder amount = .ok t') : t'.Balanced := by
  obtain ⟨positive, supply, balances⟩ := mint_eq_ok minted
  have nonneg := h.balance_nonneg holder
  exact h.set (by omega) (by omega) balances

theorem Balanced.burn (h : t.Balanced) (burnt : t.burn holder amount = .ok t') : t'.Balanced := by
  obtain ⟨-, covered, supply, balances⟩ := burn_eq_ok burnt
  exact h.set (by omega) (by omega) balances

theorem Balanced.transfer (h : t.Balanced)
    (moved : t.transfer? source target amount = some t') : t'.Balanced := by
  obtain ⟨positive, covered, debited, taken, debit, given, credit⟩ := transfer?_eq_some moved
  have hd : debited.Balanced := h.set (by omega) (by omega) debit
  have nonneg := hd.balance_nonneg target
  exact hd.set (by omega) (by omega) credit

end Token

namespace Ledger

/-- The counters of the ledger agree with each other and with the token, and every reserve is within
its cap. -/
structure Balanced (l : Ledger) : Prop where
  total_eq : l.totalMinted = l.accounts.sum Account.minted
  supply_eq : l.token.totalSupply = l.totalMinted
  token : l.token.Balanced
  minted_nonneg {reserve : Text} {a : Account} (found : l.accounts.get? reserve = some a) :
    0 ≤ a.minted
  minted_le_cap {reserve : Text} {a : Account} (found : l.accounts.get? reserve = some a) :
    a.minted ≤ a.mintingCap
  named {reserve : Text} {a : Account} (found : l.accounts.get? reserve = some a) :
    a.reserve = reserve

variable {l l' : Ledger} {auth : Authority} {p : Parameters} {caller reserve holder : Text}
  {amount total : Int} {now : Option Int}

theorem balance_of_redeem (burnt : l.redeem auth caller reserve holder amount = .ok (total, l')) :
    l'.token.balance holder = l.token.balance holder - amount := by
  obtain ⟨-, -, a, token, -, -, -, -, debited, rfl⟩ := redeem_eq_ok burnt
  obtain ⟨-, -, -, balances⟩ := Token.burn_eq_ok debited
  rw [Token.balance, balances, Table.getD, Table.get?_insert_self, Option.getD_some]

/-- What is no longer minted against a reserve is taken from the holder. -/
theorem balance_of_minted_lt {reserve other : Text}
    (burnt : l.redeem auth caller other holder amount = .ok (total, l'))
    (less : l'.minted reserve < l.minted reserve) :
    l'.token.balance holder =
      l.token.balance holder - (l.minted reserve - l'.minted reserve) := by
  have minted := minted_of_redeem reserve burnt
  have balance := balance_of_redeem burnt
  split at minted
  · omega
  · omega

theorem empty_balanced : empty.Balanced where
  total_eq := rfl
  supply_eq := rfl
  token := ⟨rfl, fun _ => Int.le_refl 0⟩
  minted_nonneg found := nomatch found
  minted_le_cap found := nomatch found
  named found := nomatch found

/-- Writing one account moves the recorded total and the supply by what its minted amount moves. -/
theorem Balanced.write (h : l.Balanced) {a : Account} (owners : Table Text Text) {token : Token}
    {minted : Int} (tokens : token.Balanced)
    (moved : minted = l.totalMinted - l.accounts.amountAt Account.minted reserve + a.minted)
    (supply : token.totalSupply = minted) (nonneg : 0 ≤ a.minted)
    (capped : a.minted ≤ a.mintingCap) (name : a.reserve = reserve) :
    Balanced ⟨l.accounts.insert reserve a, owners, minted, token⟩ where
  total_eq := by rw [Table.sum_insert, ← h.total_eq, moved]
  supply_eq := supply
  token := tokens
  minted_nonneg {r b} found := by
    rw [Table.get?_insert] at found
    split at found
    · cases found
      exact nonneg
    · exact h.minted_nonneg found
  minted_le_cap {r b} found := by
    rw [Table.get?_insert] at found
    split at found
    · cases found
      exact capped
    · exact h.minted_le_cap found
  named {r b} found := by
    rw [Table.get?_insert] at found
    split at found
    · rename_i same
      cases found
      exact name.trans same
    · exact h.named found

theorem Balanced.register {cap : Int} {a : Account} (h : l.Balanced)
    (opened : l.register auth caller reserve cap now = .ok (a, l')) : l'.Balanced := by
  obtain ⟨-, positive, missing, rfl, rfl⟩ := register_eq_ok opened
  have fresh : l.accounts.amountAt Account.minted reserve = 0 := by
    simp [Table.amountAt, missing]
  refine h.write l.walletOwners h.token ?_ h.supply_eq ?_ ?_ rfl
  · rw [fresh]
    simp [Account.new]
  · exact Int.le_refl 0
  · exact Int.le_of_lt positive

theorem Balanced.mint (h : l.Balanced)
    (minted : l.mint auth p caller reserve holder amount now = .ok (total, l')) : l'.Balanced := by
  obtain ⟨-, positive, a, token, found, -, -, rfl, capped, -, issued, rfl⟩ := mint_eq_ok minted
  have nonneg := h.minted_nonneg found
  obtain ⟨-, supply, -⟩ := Token.mint_eq_ok issued
  have name : a.reserve = reserve := h.named found
  refine h.write l.walletOwners (h.token.mint issued) ?_ ?_ ?_ capped name
  · rw [Table.amountAt_of_get? _ found]
    simp only
    omega
  · rw [supply, h.supply_eq]
  · simp only
    omega

theorem Balanced.redeem (h : l.Balanced)
    (burnt : l.redeem auth caller reserve holder amount = .ok (total, l')) : l'.Balanced := by
  obtain ⟨-, positive, a, token, found, -, covered, rfl, destroyed, rfl⟩ := redeem_eq_ok burnt
  have capped := h.minted_le_cap found
  obtain ⟨-, -, supply, -⟩ := Token.burn_eq_ok destroyed
  have name : a.reserve = reserve := h.named found
  refine h.write l.walletOwners (h.token.burn destroyed) ?_ ?_ ?_ ?_ name
  · rw [Table.amountAt_of_get? _ found]
    simp only
    omega
  · rw [supply, h.supply_eq]
  · simp only
    omega
  · simp only
    omega

theorem Balanced.amend {network : Network} (h : l.Balanced) (amended : l.Amend network l') :
    l'.Balanced := by
  cases amended with
  | account found change ownership =>
    refine h.write _ h.token ?_ h.supply_eq ?_ ?_ ?_
    · simp only [put, Table.amountAt_of_get? _ found, change.minted_eq]
      omega
    · rw [change.minted_eq]
      exact h.minted_nonneg found
    · rw [change.minted_eq]
      exact (h.minted_le_cap found).trans change.mintingCap_le
    · rw [change.reserve_eq]
      exact h.named found
  | transfer moved =>
    have supply : l.token.totalSupply = _ := h.supply_eq
    obtain ⟨-, -, debited, taken, -, given, -⟩ := Token.transfer?_eq_some moved
    exact { h with
      supply_eq := by simp only; omega
      token := h.token.transfer moved }

theorem Balanced.written {network : Network} (h : l.Balanced) (write : l.Write network l') :
    l'.Balanced := by
  cases write with
  | amend amended => exact h.amend amended
  | register opened => exact h.register opened
  | mint minted => exact h.mint minted
  | redeem burnt => exact h.redeem burnt

/-- The breach of a reserve with less backing than minted. -/
def lack? (l : Ledger) (reserve : Text) : Option Breach :=
  (l.accounts.get? reserve).bind fun a =>
    if a.backing < a.minted then some (.underBacked reserve a.backing a.minted) else none

/-- In a balanced ledger only missing backing is a breach. -/
theorem Balanced.breaches_eq (h : l.Balanced) : l.breaches = l.reserves.filterMap l.lack? := by
  have off : ¬ l.mintedSum ≠ l.totalMinted := by
    rw [h.total_eq]
    simp [mintedSum, Table.sum, List.sum_eq_foldr, List.foldr_map]
  have each : ∀ e ∈ l.accounts.entries, accountBreaches e.2 = (l.lack? e.1).toList := by
    intro e he
    have found : l.accounts.get? e.1 = some e.2 := Table.get?_eq_some_iff.mpr he
    have capped : ¬ e.2.mintingCap < e.2.minted := by
      have := h.minted_le_cap found
      omega
    have name := h.named found
    by_cases lacking : e.2.backing < e.2.minted
    · simp [accountBreaches, Account.underBacked, lack?, found, capped, name, lacking]
    · simp [accountBreaches, Account.underBacked, lack?, found, capped, lacking]
  rw [breaches, if_neg off, List.append_nil, Table.values, List.flatMap_map,
    List.flatMap_congr each, reserves, Table.keys, List.filterMap_eq_flatMap_toList,
    List.flatMap_map]

end Ledger

end BitcoinReserve
