import BitcoinReserve.Proofs.Bank.Lifecycle
import BitcoinReserve.Proofs.Bank.Wallets

/-!
# Pending payouts keep their wallets

A redemption is opened on a wallet of its reserve. The bank lets no wallet go from which something
is owed, but the ledger alone does not look at what is owed. So a pending payout keeps its wallet
as long as no wallet is taken from the ledger directly.
-/
namespace BitcoinReserve.Bank

/-- The event takes a wallet from a reserve without regard to what is owed. -/
def Event.seizes (e : Event) : Bool :=
  match e.operation, e.ending with
  | .detachWallet .., .ok _ => true
  | _, _ => false

/-- The wallet of every pending redemption belongs to its reserve. -/
def Housed (s : Bank) : Prop :=
  ∀ id r, s.redemptions.records.get? id = some r → r.status = .pending →
    s.ledger.ownsWallet r.reserve r.wallet = true

variable {s : Bank} {reserve wallet : Text}

/-- Only operations on wallets change who owns them. -/
theorem ownsWallet_of_untouched {op : Operation}
    (registered : s.ledger.Registered s.params.network)
    (untouched : .account .wallets ∉ op.parts) :
    (s.step op).2.ledger.ownsWallet reserve wallet = s.ledger.ownsWallet reserve wallet := by
  have kept : (s.step op).2.ledger.wallets reserve = s.ledger.wallets reserve :=
    (step_touched op s).read_eq Account.Field.read_wallets untouched reserve
  rw [Bool.eq_iff_iff, (step_registered op registered).ownsWallet_iff, kept,
    registered.ownsWallet_iff]

/-- A wallet stays with its reserve unless it is taken from it, or nothing is owed from it. -/
theorem ownsWallet_of_step (op : Operation) (registered : s.ledger.Registered s.params.network)
    (owned : s.ledger.ownsWallet reserve wallet = true)
    (owes : s.redemptions.walletOwes wallet = true) (kept : Event.seizes ⟨s, op⟩ = false) :
    (s.step op).2.ledger.ownsWallet reserve wallet = true := by
  cases op with
  | attachWallet caller other new =>
    rcases step_attachWallet caller other new s with ⟨r, refused⟩ | ⟨l, attached, done⟩
    · rwa [refused]
    · rw [done]
      exact Ledger.ownsWallet_of_attachWallet attached owned
  | attachProven caller other new challenge tx e =>
    rcases step_attachProven caller other new challenge tx e s with
      ⟨r, refused⟩ | ⟨hash, l, attached, done⟩
    · rwa [refused]
    · rw [done]
      exact Ledger.ownsWallet_of_attachWallet attached owned
  | detachWallet caller other old =>
    rcases step_detachWallet caller other old s with ⟨r, refused⟩ | ⟨l, detached, done⟩
    · rwa [refused]
    · simp [Event.seizes, Event.ending, done] at kept
  | detach caller other old =>
    rcases step_detach caller other old s with ⟨r, refused⟩ | ⟨free, l, detached, done⟩
    · rwa [refused]
    · have different : old ≠ wallet := by
        rintro rfl
        cases free.symm.trans owes
      rw [done]
      exact (Ledger.ownsWallet_of_detachWallet detached different).trans owned
  | _ => rwa [ownsWallet_of_untouched registered (by simp [Operation.parts])]

/-- A redemption that is pending after an event was pending before, or is opened on a wallet that
its reserve has. -/
theorem Event.Books.pending_before {e : Event} {b : RedemptionBook} (books : e.Books b) {id : Text}
    {r : Redemption} (found : b.records.get? id = some r) (pending : r.status = .pending) :
    e.found.redemptions.records.get? id = some r ∨
      e.opened? = some r ∧ e.found.ledger.ownsWallet r.reserve r.wallet = true := by
  cases books with
  | kept => exact .inl found
  | unnamed => exact .inl found
  | opened redeemable seeded hashes opens =>
    rw [RedemptionBook.get?_add] at found
    split at found
    · cases found
      exact .inr ⟨opens, redeemable.owned⟩
    · exact .inl found
  | closed opens before open_ closes =>
    simp only [RedemptionBook.get?_settle] at found
    split at found
    · cases found
      exact absurd pending closes.closing.not_pending
    · exact .inl found

/-- Opening a redemption moves no wallets. -/
theorem not_touches_wallets_of_opened {op : Operation} {r : Redemption}
    (opens : Event.opened? ⟨s, op⟩ = some r) : .account .wallets ∉ op.parts := by
  cases op with
  | redeem => simp [Operation.parts]
  | _ => cases opens

theorem Housed.step (op : Operation) (housed : s.Housed)
    (registered : s.ledger.Registered s.params.network)
    (consistent : s.redemptions.Consistent s.params) (kept : Event.seizes ⟨s, op⟩ = false) :
    (s.step op).2.Housed := by
  intro id r found pending
  rcases (step_books op s).pending_before found pending with before | ⟨opens, owned⟩
  · have owes : s.redemptions.walletOwes r.wallet = true :=
      (consistent.walletOwes_iff r.wallet).mpr ⟨id, r, before, pending, rfl⟩
    exact ownsWallet_of_step op registered (housed id r before pending) owes kept
  · rwa [ownsWallet_of_untouched registered (not_touches_wallets_of_opened opens)]

theorem run_housed (authority : Authority) (relay : Relay) (params : Parameters)
    {ops : List Operation} (collisionless : (new authority relay params).Collisionless ops)
    (kept : ∀ e ∈ (new authority relay params).events ops, e.seizes = false) :
    ((new authority relay params).run ops).Housed := by
  induction ops using List.reverseRecOn with
  | nil => exact fun _ _ found => nomatch found
  | append_singleton ops op ih =>
    rw [events_concat, List.forall_mem_append] at kept
    have housed := ih collisionless.of_append kept.1
    have same : ((new authority relay params).run ops).params = params := run_params _ ops
    rw [run_concat]
    refine housed.step op ?_ ?_ (kept.2 _ List.mem_cons_self)
    · rw [same]
      exact run_registered authority relay params ops
    · rw [same]
      exact run_consistent authority relay params collisionless.of_append

/-- However a bank is run, the registry and the accounts agree on the owner of each wallet, and no
wallet has two. As long as no wallet is taken from the ledger directly and no two ids are one hash
of different strings, the wallet of every pending redemption is one of its reserve. -/
theorem run_payouts (authority : Authority) (relay : Relay) (params : Parameters)
    (ops : List Operation) :
    let s := new authority relay params
    let l := (s.run ops).ledger
    (∀ wallet reserve, l.walletOwners.get? wallet = some reserve ↔
      ∃ a, l.accounts.get? reserve = some a ∧ wallet ∈ a.wallets.keys) ∧
    (∀ wallet reserve reserve' a a', l.accounts.get? reserve = some a →
      l.accounts.get? reserve' = some a' → wallet ∈ a.wallets.keys → wallet ∈ a'.wallets.keys →
      reserve = reserve') ∧
    ((∀ e ∈ s.events ops, e.seizes = false) → s.Collisionless ops →
      ∀ id r, (s.run ops).redemptions.records.get? id = some r → r.status = .pending →
        l.ownsWallet r.reserve r.wallet = true ∧
          ∃ a, l.accounts.get? r.reserve = some a ∧ r.wallet ∈ a.wallets.keys) := by
  intro s l
  have owner_iff : ∀ wallet reserve, l.walletOwners.get? wallet = some reserve ↔
      ∃ a, l.accounts.get? reserve = some a ∧ wallet ∈ a.wallets.keys :=
    (run_registered authority relay params ops).owner_iff
  refine ⟨owner_iff, ?_, fun kept collisionless id r found pending => ?_⟩
  · intro wallet reserve reserve' a a' found found' listed listed'
    have owner := (owner_iff wallet reserve).mpr ⟨a, found, listed⟩
    have owner' := (owner_iff wallet reserve').mpr ⟨a', found', listed'⟩
    exact Option.some.inj (owner.symm.trans owner')
  · have owned := run_housed authority relay params collisionless kept id r found pending
    exact ⟨owned, (owner_iff r.wallet r.reserve).mp (of_decide_eq_true owned)⟩

/-- The reserve of a pending redemption asks in vain for its wallet back. -/
theorem run_payouts_detach :
    let id := Hex.encode (sha256 "reserve_user_1_0".toUTF8.data.toList)
    let wallet : Text := "bcrt1qqyqszqgpqyqszqgpqyqszqgpqyqszqgpvxat9t"
    let ops := redeeming "user" ++ [.detach "reserve" "reserve" wallet]
    let b := ((new .everyone ⟨1, 1⟩ .testing).run ops).redemptions
    (∀ e ∈ (new .everyone ⟨1, 1⟩ .testing).events ops, e.seizes = false) ∧
      (new .everyone ⟨1, 1⟩ .testing).Collisionless ops ∧
      ∃ r, b.records.get? id = some r ∧ r.status = .pending ∧ r.wallet = wallet ∧
        ((new .everyone ⟨1, 1⟩ .testing).run ops).ledger.ownsWallet r.reserve wallet = true := by
  intro id wallet ops b
  have all : ((new .everyone ⟨1, 1⟩ .testing).events ops).all (fun e => !e.seizes) = true := by
    decide +kernel
  have kept : ∀ e ∈ (new .everyone ⟨1, 1⟩ .testing).events ops, e.seizes = false := fun e mem =>
    (Bool.not_eq_true' _).mp (List.all_eq_true.mp all e mem)
  have one : ∀ p ∈ (new .everyone ⟨1, 1⟩ .testing).hashed ops,
      p = "reserve_user_1_0".toUTF8.data.toList := by decide +kernel
  have collisionless := collisionless_of_eq one
  have stands : (b.records.get? id).map (fun r => (r.status, r.wallet)) =
      some (.pending, wallet) := by decide +kernel
  obtain ⟨r, found, same⟩ := Option.map_eq_some_iff.mp stands
  obtain ⟨pending, here⟩ := Prod.mk.inj same
  obtain ⟨-, -, payouts⟩ := run_payouts .everyone ⟨1, 1⟩ .testing ops
  obtain ⟨owned, -⟩ := payouts kept collisionless id r found pending
  rw [here] at owned
  exact ⟨kept, collisionless, r, found, pending, here, owned⟩

end BitcoinReserve.Bank
