import BitcoinReserve.Proofs.Outcome
import BitcoinReserve.Proofs.Table

/-!
# What an operation of the ledger writes

Minting and burning move the minted amount of one account and the token together. Registering opens
an account. Everything else amends one account and leaves its minted amount as it was, or moves
tokens between holders.
-/
namespace BitcoinReserve

/-- A change of one field, or of two that belong together, that neither mints nor burns. -/
inductive Account.Change (a : Account) : Account → Prop
  | cap {cap : Int} (higher : a.mintingCap < cap) : Change a { a with mintingCap := cap }
  | backing {backing : Int} (now : Option Int) (nonneg : 0 ≤ backing) :
      Change a { a with backing, backingUpdatedAt := now }
  | status {status : ReserveStatus} (reason : Text) (now : Option Int)
      (stored : status ≠ .emergencyPaused) (allowed : a.status.mayBecome status = true) :
      Change a (a.moveTo status reason now)
  | frozen (frozen : Bool) : Change a { a with frozen }
  | synced (now : Int) : Change a { a with lastSyncedAt := some now }
  | wallets (wallets : KeySet Text) : Change a { a with wallets }

/-- The fields of an account that change apart from each other and from what is minted. -/
inductive Account.Field where
  | cap
  | backing
  | status
  | frozen
  | syncTime
  | wallets
  deriving DecidableEq, Repr

/-- The account with one field, or two that belong together, as another account has it. -/
def Account.take (a : Account) (field : Field) (b : Account) : Account :=
  match field with
  | .cap => { a with mintingCap := b.mintingCap }
  | .backing => { a with backing := b.backing, backingUpdatedAt := b.backingUpdatedAt }
  | .status => { a with status := b.status, history := b.history }
  | .frozen => { a with frozen := b.frozen }
  | .syncTime => { a with lastSyncedAt := b.lastSyncedAt }
  | .wallets => { a with wallets := b.wallets }

namespace Account.Change

variable {a b : Account}

theorem reserve_eq (h : a.Change b) : b.reserve = a.reserve := by
  cases h <;> rfl

theorem minted_eq (h : a.Change b) : b.minted = a.minted := by
  cases h <;> rfl

theorem mintingCap_le (h : a.Change b) : a.mintingCap ≤ b.mintingCap := by
  cases h with
  | cap higher => exact Int.le_of_lt higher
  | backing | status | frozen | synced | wallets => exact Int.le_refl _

end Account.Change

namespace Ledger

/-- The owners of wallets change with the wallets of one account. A wallet that is attached is an
address of the network and belonged to nobody. -/
inductive Ownership (network : Network) (l : Ledger) (reserve : Text) (a b : Account) :
    Table Text Text → Prop
  | kept (same : b.wallets = a.wallets) : Ownership network l reserve a b l.walletOwners
  | attached {wallet : Text} {d : Destination} (decoded : Address.decode network wallet = .ok d)
      (free : l.walletOwners.get? wallet = none) (added : b.wallets = KeySet.add a.wallets wallet) :
      Ownership network l reserve a b (l.walletOwners.insert wallet reserve)
  | detached {wallet : Text} (owned : a.wallets.contains wallet = true)
      (erased : b.wallets = a.wallets.erase wallet) :
      Ownership network l reserve a b (l.walletOwners.erase wallet)

/-- A write that neither opens an account nor mints nor burns. -/
inductive Amend (network : Network) (l : Ledger) : Ledger → Prop
  | account {reserve : Text} {a b : Account} {owners : Table Text Text}
      (found : l.accounts.get? reserve = some a) (change : a.Change b)
      (ownership : l.Ownership network reserve a b owners) :
      Amend network l { l.put reserve b with walletOwners := owners }
  | transfer {source target : Text} {amount : Int} {token : Token}
      (moved : l.token.transfer? source target amount = some token) :
      Amend network l { l with token }

variable {l l' : Ledger} {auth : Authority} {p : Parameters} {network : Network}
  {caller reserve holder wallet : Text} {amount total : Int} {now : Option Int}

/-- A write to one field of one account. -/
inductive Edit (network : Network) (l : Ledger) (field : Account.Field) : Ledger → Prop
  | account {reserve : Text} {a b : Account} {owners : Table Text Text}
      (found : l.accounts.get? reserve = some a) (change : a.Change b) (only : b = a.take field b)
      (ownership : l.Ownership network reserve a b owners) :
      Edit network l field { l.put reserve b with walletOwners := owners }

theorem Edit.amend {field : Account.Field} (h : l.Edit network field l') : l.Amend network l' := by
  obtain ⟨found, change, -, ownership⟩ := h
  exact .account found change ownership

theorem Edit.put {field : Account.Field} {a b : Account} (found : l.accounts.get? reserve = some a)
    (change : a.Change b) (only : b = a.take field b) (same : b.wallets = a.wallets) :
    l.Edit network field (l.put reserve b) :=
  .account found change only (.kept same)

/-- Who may open which account, and what opening writes. -/
theorem register_eq_ok {cap : Int} {a : Account}
    (h : l.register auth caller reserve cap now = .ok (a, l')) :
    auth.allows caller .registrar = true ∧ 0 < cap ∧ l.accounts.get? reserve = none ∧
      a = Account.new reserve cap now ∧ l' = l.put reserve a := by
  simp only [register, Check.bind_eq_ok_iff, Check.require_eq_ok_iff, ensure_eq_ok_iff,
    Check.pure_eq_ok_iff, Prod.mk.injEq, exists_const] at h
  obtain ⟨allowed, -, positive, fresh, rfl, rfl⟩ := h
  have missing : l.accounts.get? reserve = none := by
    simpa [hasReserve, Table.contains] using fresh
  exact ⟨allowed, positive, missing, rfl, rfl⟩

/-- The conditions under which tokens are minted, and what minting writes. -/
theorem mint_eq_ok (h : l.mint auth p caller reserve holder amount now = .ok (total, l')) :
    auth.allows caller .minter = true ∧ 0 < amount ∧
      ∃ a token, l.accounts.get? reserve = some a ∧ a.frozen = false ∧ a.status = .active ∧
        total = a.minted + amount ∧ total ≤ a.mintingCap ∧ total ≤ a.backing ∧
        l.token.mint holder amount = .ok token ∧
        l' = { l.put reserve { a with minted := total } with
          token, totalMinted := l.totalMinted + amount } := by
  simp only [mint, Check.bind_eq_ok_iff, Check.require_eq_ok_iff, Check.account_eq_ok_iff,
    ensure_eq_ok_iff, Check.pure_eq_ok_iff, Prod.mk.injEq, exists_const] at h
  obtain ⟨allowed, positive, a, found, thawed, active, -, capped, backed, token, minted, rfl,
    rfl⟩ := h
  exact ⟨allowed, positive, a, token, found, thawed, active, rfl, capped, backed, minted, rfl⟩

/-- The conditions under which tokens are burnt, and what burning writes. -/
theorem redeem_eq_ok (h : l.redeem auth caller reserve holder amount = .ok (total, l')) :
    (caller = holder ∨ auth.allows caller .minter = true) ∧ 0 < amount ∧
      ∃ a token, l.accounts.get? reserve = some a ∧ a.canRedeem = true ∧ amount ≤ a.minted ∧
        total = a.minted - amount ∧ l.token.burn holder amount = .ok token ∧
        l' = { l.put reserve { a with minted := total } with
          token, totalMinted := l.totalMinted - amount } := by
  simp only [redeem, Check.bind_eq_ok_iff, Check.requireOrOwn_eq_ok_iff, Check.account_eq_ok_iff,
    ensure_eq_ok_iff, Check.pure_eq_ok_iff, Prod.mk.injEq, exists_const] at h
  obtain ⟨allowed, positive, a, found, -, redeemable, covered, token, burnt, rfl, rfl⟩ := h
  exact ⟨allowed, positive, a, token, found, redeemable, covered, rfl, burnt, rfl⟩

theorem raiseCap_eq_ok {cap : Int} (h : l.raiseCap auth caller reserve cap = .ok l') :
    auth.allows caller .registrar = true ∧ ∃ a, l.accounts.get? reserve = some a ∧
      a.mintingCap < cap ∧ l' = l.put reserve { a with mintingCap := cap } := by
  simp only [raiseCap, Check.bind_eq_ok_iff, Check.require_eq_ok_iff, Check.account_eq_ok_iff,
    ensure_eq_ok_iff, Check.pure_eq_ok_iff, exists_const] at h
  obtain ⟨allowed, a, found, higher, rfl⟩ := h
  exact ⟨allowed, a, found, higher, rfl⟩

theorem edit_of_raiseCap {cap : Int} (h : l.raiseCap auth caller reserve cap = .ok l') :
    l.Edit network .cap l' := by
  obtain ⟨-, a, found, higher, rfl⟩ := raiseCap_eq_ok h
  exact .put found (.cap higher) rfl rfl

theorem setBacking_eq_ok {backing : Int} (h : l.setBacking reserve backing now = .ok l') :
    0 ≤ backing ∧ ∃ a, l.accounts.get? reserve = some a ∧
      l' = l.put reserve { a with backing, backingUpdatedAt := now } := by
  simp only [setBacking, Check.bind_eq_ok_iff, Check.account_eq_ok_iff, ensure_eq_ok_iff,
    Check.pure_eq_ok_iff, exists_const] at h
  obtain ⟨nonneg, a, found, rfl⟩ := h
  exact ⟨nonneg, a, found, rfl⟩

theorem edit_of_setBacking {backing : Int} (h : l.setBacking reserve backing now = .ok l') :
    l.Edit network .backing l' := by
  obtain ⟨nonneg, a, found, rfl⟩ := setBacking_eq_ok h
  exact .put found (.backing now nonneg) rfl rfl

theorem setStatus_eq_ok {status : ReserveStatus} {reason : Text}
    (h : l.setStatus reserve status reason now = .ok l') :
    ∃ a, l.accounts.get? reserve = some a ∧ status ≠ .emergencyPaused ∧
      a.status.mayBecome status = true ∧ l' = l.put reserve (a.moveTo status reason now) := by
  simp only [setStatus, Check.bind_eq_ok_iff, Check.account_eq_ok_iff, ensure_eq_ok_iff,
    Check.pure_eq_ok_iff, exists_const] at h
  obtain ⟨stored, a, found, allowed, rfl⟩ := h
  exact ⟨a, found, stored, allowed, rfl⟩

theorem edit_of_setStatus {status : ReserveStatus} {reason : Text}
    (h : l.setStatus reserve status reason now = .ok l') : l.Edit network .status l' := by
  obtain ⟨a, found, stored, allowed, rfl⟩ := setStatus_eq_ok h
  exact .put found (.status reason now stored allowed) rfl rfl

theorem selfPause_eq_ok (h : l.selfPause caller reserve now = .ok l') :
    caller = reserve ∧ l.setStatus reserve .selfPaused "self_pause" now = .ok l' := by
  simp only [selfPause, Check.bind_eq_ok_iff, ensure_eq_ok_iff, exists_const] at h
  exact h

theorem setStatus_of_selfPause (h : l.selfPause caller reserve now = .ok l') :
    l.setStatus reserve .selfPaused "self_pause" now = .ok l' :=
  (selfPause_eq_ok h).2

theorem resume_eq_ok (h : l.resume caller reserve now = .ok l') :
    caller = reserve ∧ l.setStatus reserve .active "resume" now = .ok l' ∧
      ∃ a, l.accounts.get? reserve = some a ∧ a.status = .selfPaused := by
  simp only [resume, Check.bind_eq_ok_iff, Check.account_eq_ok_iff, ensure_eq_ok_iff,
    exists_const] at h
  obtain ⟨own, a, found, paused, resumed⟩ := h
  exact ⟨own, resumed, a, found, paused⟩

theorem setStatus_of_resume (h : l.resume caller reserve now = .ok l') :
    l.setStatus reserve .active "resume" now = .ok l' :=
  (resume_eq_ok h).2.1

theorem setFrozen_eq_ok {frozen : Bool} (h : l.setFrozen reserve frozen = .ok l') :
    ∃ a, l.accounts.get? reserve = some a ∧ (frozen = true ∨ a.frozen = true) ∧
      l' = l.put reserve { a with frozen } := by
  simp only [setFrozen, Check.bind_eq_ok_iff, Check.account_eq_ok_iff, ensure_eq_ok_iff,
    Check.pure_eq_ok_iff, exists_const] at h
  obtain ⟨a, found, changes, rfl⟩ := h
  exact ⟨a, found, changes, rfl⟩

theorem edit_of_setFrozen {frozen : Bool} (h : l.setFrozen reserve frozen = .ok l') :
    l.Edit network .frozen l' := by
  obtain ⟨a, found, -, rfl⟩ := setFrozen_eq_ok h
  exact .put found (.frozen frozen) rfl rfl

/-- A wallet that is attached is an address that belonged to nobody. -/
theorem attachWallet_eq_ok (h : l.attachWallet auth p caller reserve wallet = .ok l') :
    (caller = reserve ∨ auth.allows caller .registrar = true) ∧ ∃ d a,
      Address.decode p.network wallet = .ok d ∧ l.accounts.get? reserve = some a ∧
        l.walletOwners.get? wallet = none ∧
        l' = { l.put reserve { a with wallets := KeySet.add a.wallets wallet } with
          walletOwners := l.walletOwners.insert wallet reserve } := by
  simp only [attachWallet, Check.bind_eq_ok_iff, Check.requireOrOwn_eq_ok_iff,
    Check.mapError_eq_ok_iff, Check.account_eq_ok_iff, exists_const] at h
  obtain ⟨allowed, d, decoded, a, found, h⟩ := h
  split at h
  · cases h
  · rename_i free
    cases h
    exact ⟨allowed, d, a, decoded, found, free, rfl⟩

theorem edit_of_attachWallet (h : l.attachWallet auth p caller reserve wallet = .ok l') :
    l.Edit p.network .wallets l' := by
  obtain ⟨-, d, a, decoded, found, free, rfl⟩ := attachWallet_eq_ok h
  exact .account found (.wallets _) rfl (.attached decoded free rfl)

theorem detachWallet_eq_ok (h : l.detachWallet auth caller reserve wallet = .ok l') :
    (caller = reserve ∨ auth.allows caller .registrar = true) ∧
      ∃ a, l.accounts.get? reserve = some a ∧ a.wallets.contains wallet = true ∧
        l' = { l.put reserve { a with wallets := a.wallets.erase wallet } with
          walletOwners := l.walletOwners.erase wallet } := by
  simp only [detachWallet, Check.bind_eq_ok_iff, Check.requireOrOwn_eq_ok_iff,
    Check.account_eq_ok_iff, ensure_eq_ok_iff, Check.pure_eq_ok_iff, exists_const] at h
  obtain ⟨allowed, a, found, owned, rfl⟩ := h
  exact ⟨allowed, a, found, owned, rfl⟩

theorem edit_of_detachWallet (h : l.detachWallet auth caller reserve wallet = .ok l') :
    l.Edit network .wallets l' := by
  obtain ⟨-, a, found, owned, rfl⟩ := detachWallet_eq_ok h
  exact .account found (.wallets _) rfl (.detached owned rfl)

theorem Amend.reserves_eq (h : l.Amend network l') : l'.reserves = l.reserves := by
  cases h with
  | account found change ownership => exact Table.keys_insert_of_get? found
  | transfer moved => rfl

theorem reserves_of_register {cap : Int} {a : Account}
    (h : l.register auth caller reserve cap now = .ok (a, l')) :
    l'.reserves = l.reserves ++ [reserve] := by
  obtain ⟨-, -, missing, -, rfl⟩ := register_eq_ok h
  exact Table.keys_insert_of_get?_none missing

theorem reserves_of_mint (h : l.mint auth p caller reserve holder amount now = .ok (total, l')) :
    l'.reserves = l.reserves := by
  obtain ⟨-, -, a, token, found, -, -, -, -, -, -, rfl⟩ := mint_eq_ok h
  exact Table.keys_insert_of_get? found

theorem reserves_of_redeem (h : l.redeem auth caller reserve holder amount = .ok (total, l')) :
    l'.reserves = l.reserves := by
  obtain ⟨-, -, a, token, found, -, -, -, -, rfl⟩ := redeem_eq_ok h
  exact Table.keys_insert_of_get? found

/-- What is minted against a reserve, nothing where there is no account. -/
def minted (l : Ledger) (reserve : Text) : Int := l.accounts.amountAt Account.minted reserve

theorem minted_insert {a b : Account} (other : Text) (found : l.accounts.get? reserve = some a)
    (accounts : l'.accounts = l.accounts.insert reserve b) :
    l'.minted other = l.minted other + if reserve = other then b.minted - a.minted else 0 := by
  rw [minted, minted, accounts, Table.amountAt_insert]
  split
  · rename_i same
    subst same
    rw [Table.amountAt_of_get? _ found]
    omega
  · omega

theorem Amend.minted_eq (h : l.Amend network l') (other : Text) :
    l'.minted other = l.minted other := by
  cases h with
  | account found change ownership =>
    refine (minted_insert other found rfl).trans ?_
    rw [change.minted_eq, Int.sub_self, ite_self, Int.add_zero]
  | transfer moved => rfl

/-- Amendments one after another. -/
abbrev Amends (network : Network) : Ledger → Ledger → Prop :=
  Relation.ReflTransGen (Amend network)

theorem Amends.reserves_eq (h : Amends network l l') : l'.reserves = l.reserves := by
  induction h with
  | refl => rfl
  | tail _ amended ih => exact amended.reserves_eq.trans ih

theorem Amends.minted_eq (h : Amends network l l') (other : Text) :
    l'.minted other = l.minted other := by
  induction h with
  | refl => rfl
  | tail _ amended ih => exact (amended.minted_eq other).trans ih

theorem minted_of_register {cap : Int} {a : Account} (other : Text)
    (h : l.register auth caller reserve cap now = .ok (a, l')) :
    l'.minted other = l.minted other := by
  obtain ⟨-, -, missing, rfl, rfl⟩ := register_eq_ok h
  rw [minted, minted, put, Table.amountAt_insert]
  split
  · rename_i same
    subst same
    rw [Table.amountAt, missing]
    rfl
  · rfl

theorem minted_of_mint (other : Text)
    (h : l.mint auth p caller reserve holder amount now = .ok (total, l')) :
    l'.minted other = l.minted other + if reserve = other then amount else 0 := by
  obtain ⟨-, -, a, token, found, -, -, rfl, -, -, -, rfl⟩ := mint_eq_ok h
  rw [minted_insert other found rfl]
  split
  · simp only
    omega
  · omega

theorem minted_of_redeem (other : Text)
    (h : l.redeem auth caller reserve holder amount = .ok (total, l')) :
    l'.minted other = l.minted other - if reserve = other then amount else 0 := by
  obtain ⟨-, -, a, token, found, -, -, rfl, -, rfl⟩ := redeem_eq_ok h
  rw [minted_insert other found rfl]
  split
  · simp only
    omega
  · omega

theorem minted_le_of_redeem (other : Text)
    (h : l.redeem auth caller reserve holder amount = .ok (total, l')) :
    l'.minted other ≤ l.minted other := by
  obtain ⟨-, positive, -⟩ := redeem_eq_ok h
  rw [minted_of_redeem other h]
  split
  · omega
  · omega

/-- A write of the ledger, of whatever kind. -/
inductive Write (network : Network) (l : Ledger) : Ledger → Prop
  | amend {l' : Ledger} (amended : l.Amend network l') : Write network l l'
  | register {auth : Authority} {caller reserve : Text} {cap : Int} {now : Option Int} {a : Account}
      {l' : Ledger} (opened : l.register auth caller reserve cap now = .ok (a, l')) :
      Write network l l'
  | mint {auth : Authority} {p : Parameters} {caller reserve holder : Text} {amount total : Int}
      {now : Option Int} {l' : Ledger}
      (minted : l.mint auth p caller reserve holder amount now = .ok (total, l')) :
      Write network l l'
  | redeem {auth : Authority} {caller reserve holder : Text} {amount total : Int} {l' : Ledger}
      (burnt : l.redeem auth caller reserve holder amount = .ok (total, l')) :
      Write network l l'

/-- Every account is kept, and no cap is lower than it was. -/
def CapsRise (l l' : Ledger) : Prop :=
  ∀ reserve a, l.accounts.get? reserve = some a →
    ∃ b, l'.accounts.get? reserve = some b ∧ a.mintingCap ≤ b.mintingCap

theorem CapsRise.refl (l : Ledger) : l.CapsRise l :=
  fun _ a found => ⟨a, found, Int.le_refl _⟩

theorem CapsRise.trans {l'' : Ledger} (first : l.CapsRise l') (next : l'.CapsRise l'') :
    l.CapsRise l'' := by
  intro reserve a found
  obtain ⟨b, kept, higher⟩ := first reserve a found
  obtain ⟨c, kept, higher'⟩ := next reserve b kept
  exact ⟨c, kept, Int.le_trans higher higher'⟩

/-- It is enough that the one account that is written does not lower its cap. -/
theorem CapsRise.insert {b : Account} (accounts : l'.accounts = l.accounts.insert reserve b)
    (higher : ∀ a, l.accounts.get? reserve = some a → a.mintingCap ≤ b.mintingCap) :
    l.CapsRise l' := by
  intro other a found
  rw [accounts, Table.get?_insert]
  split
  · rename_i same
    subst same
    exact ⟨b, rfl, higher a found⟩
  · exact ⟨a, found, Int.le_refl _⟩

theorem Write.capsRise (h : l.Write network l') : l.CapsRise l' := by
  cases h with
  | amend amended =>
    cases amended with
    | account found change ownership =>
      refine .insert rfl fun c found' => ?_
      cases found.symm.trans found'
      exact change.mintingCap_le
    | transfer moved => exact .refl _
  | register opened =>
    obtain ⟨-, -, missing, -, rfl⟩ := register_eq_ok opened
    refine .insert rfl fun c found => ?_
    rw [missing] at found
    cases found
  | mint minted =>
    obtain ⟨-, -, a, token, found, -, -, -, -, -, -, rfl⟩ := mint_eq_ok minted
    refine .insert rfl fun c found' => ?_
    cases found.symm.trans found'
    exact Int.le_refl _
  | redeem burnt =>
    obtain ⟨-, -, a, token, found, -, -, -, -, rfl⟩ := redeem_eq_ok burnt
    refine .insert rfl fun c found' => ?_
    cases found.symm.trans found'
    exact Int.le_refl _

end Ledger

end BitcoinReserve
