import BitcoinReserve.Proofs.Ledger.Amendment

/-!
# Readings of accounts

What is read off the account of a reserve. A reserve that is not registered yet reads as it will when
its account is opened.
-/
namespace BitcoinReserve

variable {β : Type} {f : Account → β} {d : β}

/-- What is read depends on one field and is the default in a new account. -/
structure Account.Field.Read (field : Account.Field) (f : Account → β) (d : β) : Prop where
  new : ∀ reserve cap now, f (Account.new reserve cap now) = d
  minted : ∀ (a : Account) total, f { a with minted := total } = f a
  take : ∀ other, other ≠ field → ∀ a b, f (Account.take a other b) = f a

theorem Account.Field.read_backing :
    Account.Field.backing.Read (fun a => (a.backing, a.backingUpdatedAt)) (0, none) where
  new _ _ _ := rfl
  minted _ _ := rfl
  take other ne a b := by
    cases other with
    | backing => exact absurd rfl ne
    | cap | status | frozen | syncTime | wallets => rfl

theorem Account.Field.read_status :
    Account.Field.status.Read (fun a => (a.status, a.history)) (.active, []) where
  new _ _ _ := rfl
  minted _ _ := rfl
  take other ne a b := by
    cases other with
    | status => exact absurd rfl ne
    | cap | backing | frozen | syncTime | wallets => rfl

theorem Account.Field.read_frozen : Account.Field.frozen.Read Account.frozen false where
  new _ _ _ := rfl
  minted _ _ := rfl
  take other ne a b := by
    cases other with
    | frozen => exact absurd rfl ne
    | cap | backing | status | syncTime | wallets => rfl

theorem Account.Field.read_syncTime :
    Account.Field.syncTime.Read Account.lastSyncedAt none where
  new _ _ _ := rfl
  minted _ _ := rfl
  take other ne a b := by
    cases other with
    | syncTime => exact absurd rfl ne
    | cap | backing | status | frozen | wallets => rfl

theorem Account.Field.read_wallets : Account.Field.wallets.Read Account.wallets .empty where
  new _ _ _ := rfl
  minted _ _ := rfl
  take other ne a b := by
    cases other with
    | wallets => exact absurd rfl ne
    | cap | backing | status | frozen | syncTime => rfl

theorem Account.mintingCap_take {field : Account.Field} (ne : field ≠ .cap) (a b : Account) :
    (a.take field b).mintingCap = a.mintingCap := by
  cases field with
  | cap => exact absurd rfl ne
  | backing | status | frozen | syncTime | wallets => rfl

namespace Ledger

variable {l l' : Ledger} {network : Network} {reserve other : Text} {a b : Account}

theorem put_of_get? (found : l.accounts.get? reserve = some a) : l.put reserve a = l := by
  unfold put
  rw [Table.insert_of_get? found]

def read (l : Ledger) (f : Account → β) (d : β) (reserve : Text) : β :=
  ((l.accounts.get? reserve).map f).getD d

theorem read_of_get? (found : l.accounts.get? reserve = some a) : l.read f d reserve = f a := by
  simp [read, found]

theorem read_insert (accounts : l'.accounts = l.accounts.insert other b) :
    l'.read f d reserve = if other = reserve then f b else l.read f d reserve := by
  unfold read
  rw [accounts, Table.get?_insert]
  split
  · rfl
  · rfl

theorem read_put (l : Ledger) (other : Text) (b : Account) :
    (l.put other b).read f d reserve = if other = reserve then f b else l.read f d reserve :=
  read_insert rfl

/-- Only the account that is written reads otherwise. -/
theorem eq_of_read_ne (accounts : l'.accounts = l.accounts.insert other b)
    (changed : l'.read f d reserve ≠ l.read f d reserve) : other = reserve := by
  by_contra ne
  exact changed ((read_insert accounts).trans (if_neg ne))

/-- Writing an account in another place or so that it reads as it did. -/
theorem read_insert_of_eq (found : l.accounts.get? other = some a)
    (accounts : l'.accounts = l.accounts.insert other b) (same : f b = f a) :
    l'.read f d reserve = l.read f d reserve := by
  rw [read_insert accounts]
  split
  · rename_i here
    rw [← here, read_of_get? found, same]
  · rfl

/-- What is known of an account and whether there is one, where it is written so that it reads as it
did. -/
theorem map_get?_insert_of_eq (found : l.accounts.get? other = some a)
    (accounts : l'.accounts = l.accounts.insert other b) (same : f b = f a) :
    (l'.accounts.get? reserve).map f = (l.accounts.get? reserve).map f := by
  rw [accounts, Table.get?_insert]
  split
  · rename_i here
    rw [← here, found, Option.map_some, Option.map_some, same]
  · rfl

theorem read_register {field : Account.Field} (reads : field.Read f d) {auth : Authority}
    {caller : Text} {cap : Int} {now : Option Int}
    (opened : l.register auth caller other cap now = .ok (a, l')) :
    l'.read f d reserve = l.read f d reserve := by
  obtain ⟨-, -, missing, rfl, rfl⟩ := register_eq_ok opened
  rw [read_put]
  split
  · rename_i here
    rw [← here, reads.new, read, missing]
    rfl
  · rfl

theorem Edit.read_eq {field written : Account.Field} (reads : field.Read f d)
    (edited : l.Edit network written l') (ne : written ≠ field) :
    l'.read f d reserve = l.read f d reserve := by
  obtain ⟨found, -, only, -⟩ := edited
  refine read_insert_of_eq found rfl ?_
  rw [only]
  exact reads.take written ne _ _

end Ledger

end BitcoinReserve
