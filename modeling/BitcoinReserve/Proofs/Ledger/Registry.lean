import BitcoinReserve.Proofs.Ledger.Readings

/-!
# The registry of wallets

The registry and the accounts agree on who owns which wallet, and whatever is registered is an
address of the network.
-/
namespace BitcoinReserve.Ledger

/-- The wallets of the accounts are registered to them, and nothing else is registered. -/
structure Registered (network : Network) (l : Ledger) : Prop where
  decodes : ∀ wallet ∈ l.walletOwners.keys, ∃ d, Address.decode network wallet = .ok d
  owner_iff : ∀ wallet reserve, l.walletOwners.get? wallet = some reserve ↔
    ∃ a, l.accounts.get? reserve = some a ∧ wallet ∈ a.wallets.keys

/-- The wallets of a reserve, none where there is no account. -/
def wallets (l : Ledger) (reserve : Text) : KeySet Text := l.read Account.wallets .empty reserve

variable {network : Network} {l l' : Ledger}

theorem Registered.ownsWallet_iff (h : l.Registered network) (reserve wallet : Text) :
    l.ownsWallet reserve wallet = true ↔ wallet ∈ (l.wallets reserve).keys := by
  rw [ownsWallet, decide_eq_true_eq, h.owner_iff, wallets, read]
  cases l.accounts.get? reserve with
  | none => simp
  | some a => simp

/-- A wallet that is attached was free, and so no reserve loses one. -/
theorem ownsWallet_of_attachWallet {auth : Authority} {p : Parameters} {caller reserve : Text}
    {other wallet new : Text} (attached : l.attachWallet auth p caller other new = .ok l')
    (owned : l.ownsWallet reserve wallet = true) : l'.ownsWallet reserve wallet = true := by
  obtain ⟨-, d, a, -, -, free, rfl⟩ := attachWallet_eq_ok attached
  simp only [ownsWallet, decide_eq_true_eq, Table.get?_insert] at owned ⊢
  rw [if_neg, owned]
  rintro rfl
  cases free.symm.trans owned

theorem ownsWallet_of_detachWallet {auth : Authority} {caller reserve other wallet old : Text}
    (detached : l.detachWallet auth caller other old = .ok l') (different : old ≠ wallet) :
    l'.ownsWallet reserve wallet = l.ownsWallet reserve wallet := by
  obtain ⟨-, a, -, -, rfl⟩ := detachWallet_eq_ok detached
  simp only [ownsWallet, Table.get?_erase_of_ne _ different]

theorem empty_registered (network : Network) : empty.Registered network where
  decodes _ listed := nomatch listed
  owner_iff wallet reserve := by simp [empty]

theorem Ownership.decodes {reserve : Text} {a b : Account} {owners : Table Text Text}
    (ownership : l.Ownership network reserve a b owners) (h : l.Registered network) :
    ∀ wallet ∈ owners.keys, ∃ d, Address.decode network wallet = .ok d := by
  intro wallet listed
  cases ownership with
  | kept => exact h.decodes wallet listed
  | attached decoded =>
    rcases Table.mem_keys_insert.mp listed with rfl | old
    · exact ⟨_, decoded⟩
    · exact h.decodes wallet old
  | detached => exact h.decodes wallet (Table.mem_keys_erase.mp listed).2

/-- The account that is written gains or loses the wallet that the registry does. -/
theorem Ownership.owner_iff {reserve : Text} {a b : Account} {owners : Table Text Text}
    (ownership : l.Ownership network reserve a b owners) (h : l.Registered network)
    (found : l.accounts.get? reserve = some a) (wallet : Text) :
    (owners.get? wallet = some reserve ↔ wallet ∈ b.wallets.keys) ∧
      ∀ other ≠ reserve, (owners.get? wallet = some other ↔
        l.walletOwners.get? wallet = some other) := by
  have owned (w : Text) : l.walletOwners.get? w = some reserve ↔ w ∈ a.wallets.keys := by
    simp [h.owner_iff, found]
  cases ownership with
  | kept same =>
    rw [same, owned]
    exact ⟨Iff.rfl, fun _ _ => Iff.rfl⟩
  | @attached new d decoded free added =>
    rw [added, KeySet.add, Table.mem_keys_insert, Table.get?_insert]
    by_cases here : new = wallet
    · subst here
      refine ⟨by simp, fun other different => ?_⟩
      simp [free, different.symm]
    · simp only [here, if_false, false_or]
      exact ⟨owned wallet, fun _ _ => trivial⟩
  | @detached old listed erased =>
    have owner : l.walletOwners.get? old = some reserve :=
      (owned old).mpr (Table.contains_iff.mp listed)
    rw [erased, Table.mem_keys_erase, Table.get?_erase]
    by_cases here : old = wallet
    · subst here
      refine ⟨by simp, fun other different => ?_⟩
      simp [owner, different.symm]
    · simp only [here, if_false, ne_eq, not_false_eq_true, true_and]
      exact ⟨owned wallet, fun _ _ => trivial⟩

/-- An account is written together with what its wallets change in the registry. -/
theorem Registered.put {reserve : Text} {a b : Account} {owners : Table Text Text}
    (h : l.Registered network) (found : l.accounts.get? reserve = some a)
    (ownership : l.Ownership network reserve a b owners)
    (accounts : l'.accounts = l.accounts.insert reserve b) (owned : l'.walletOwners = owners) :
    l'.Registered network where
  decodes := by
    rw [owned]
    exact ownership.decodes h
  owner_iff wallet other := by
    obtain ⟨here, elsewhere⟩ := ownership.owner_iff h found wallet
    rw [owned, accounts, Table.get?_insert]
    by_cases same : reserve = other
    · subst same
      simpa using here
    · rw [elsewhere other (Ne.symm same), h.owner_iff, if_neg same]

/-- A new account has no wallets. -/
theorem Registered.register {auth : Authority} {caller reserve : Text} {cap : Int}
    {now : Option Int} {a : Account} (h : l.Registered network)
    (opened : l.register auth caller reserve cap now = .ok (a, l')) : l'.Registered network where
  decodes := by
    obtain ⟨-, -, -, -, rfl⟩ := register_eq_ok opened
    exact h.decodes
  owner_iff wallet other := by
    obtain ⟨-, -, missing, rfl, rfl⟩ := register_eq_ok opened
    have before := h.owner_iff wallet other
    simp only [Ledger.put, Table.get?_insert]
    by_cases same : reserve = other
    · subst same
      simpa [missing, Account.new] using before
    · rwa [if_neg same]

theorem Registered.written (h : l.Registered network) (write : l.Write network l') :
    l'.Registered network := by
  cases write with
  | amend amended =>
    cases amended with
    | account found change ownership => exact h.put found ownership rfl rfl
    | transfer moved => exact ⟨h.decodes, h.owner_iff⟩
  | register opened => exact h.register opened
  | mint minted =>
    obtain ⟨-, -, a, token, found, -, -, -, -, -, -, rfl⟩ := mint_eq_ok minted
    refine h.put found ?_ rfl rfl
    exact .kept rfl
  | redeem burnt =>
    obtain ⟨-, -, a, token, found, -, -, -, -, rfl⟩ := redeem_eq_ok burnt
    refine h.put found ?_ rfl rfl
    exact .kept rfl

end BitcoinReserve.Ledger
