import BitcoinReserve.Proofs.Bank.Accounting
import BitcoinReserve.Proofs.Bitcoin.Spelling
import BitcoinReserve.Proofs.Ledger.Registry

/-!
# The wallets of a bank

Two operations attach wallets and two give them up. However a bank is run, a registered wallet is an
address of the network that belongs to one reserve. The registry tells wallets apart by their texts,
so that one destination can be registered under each of its spellings, and under no other texts.
-/
namespace BitcoinReserve.Bank

open BitcoinReserve.Action

variable {s : Bank}

theorem step_attachWallet (caller reserve wallet : Text) (s : Bank) :
    (∃ r, s.step (.attachWallet caller reserve wallet) = (.error (.refused r), s)) ∨
      ∃ l, s.ledger.attachWallet s.authority s.params caller reserve wallet = .ok l ∧
        s.step (.attachWallet caller reserve wallet) = (.ok .nothing, { s with ledger := l }) := by
  have performs : perform (.attachWallet caller reserve wallet) =
      orFail (onLedger_ fun s =>
        s.ledger.attachWallet s.authority s.params caller reserve wallet) fun _ => .nothing := rfl
  exact step_onLedger_ performs s

theorem step_detachWallet (caller reserve wallet : Text) (s : Bank) :
    (∃ r, s.step (.detachWallet caller reserve wallet) = (.error (.refused r), s)) ∨
      ∃ l, s.ledger.detachWallet s.authority caller reserve wallet = .ok l ∧
        s.step (.detachWallet caller reserve wallet) = (.ok .nothing, { s with ledger := l }) := by
  have performs : perform (.detachWallet caller reserve wallet) =
      orFail (onLedger_ fun s =>
        s.ledger.detachWallet s.authority caller reserve wallet) fun _ => .nothing := rfl
  exact step_onLedger_ performs s

/-- A wallet is attached on proof, and the proof is remembered, when all has been checked. -/
theorem attachProven_ends (caller reserve wallet : Text) (challenge : Bytes) (tx : Transaction)
    (e : Evidence) (s : Bank) :
    (attachProven caller reserve wallet challenge tx e).Ends s fun result => ∃ hash l,
      s.ledger.attachWallet s.authority s.params caller reserve wallet = .ok l ∧
        result = .ok hash
          { s with ledger := l, walletProofs := KeySet.add s.walletProofs hash } := by
  unfold attachProven
  refine .decide_bind fun _ _ => .decide_bind fun _ _ => .decide_bind fun hash _ => .get_bind ?_
  exact .decide_bind fun _ _ => .onLedger_unit_bind fun l attached => ⟨hash, l, attached, rfl⟩

theorem step_attachProven (caller reserve wallet : Text) (challenge : Bytes) (tx : Transaction)
    (e : Evidence) (s : Bank) :
    (∃ r, s.step (.attachProven caller reserve wallet challenge tx e) = (.error (.refused r), s)) ∨
      ∃ hash l, s.ledger.attachWallet s.authority s.params caller reserve wallet = .ok l ∧
        s.step (.attachProven caller reserve wallet challenge tx e) = (.ok (.hash hash),
          { s with ledger := l, walletProofs := KeySet.add s.walletProofs hash }) := by
  have performs : perform (.attachProven caller reserve wallet challenge tx e) s =
      orFail (attachProven caller reserve wallet challenge tx e) .hash s := rfl
  rcases step_ends (attachProven_ends caller reserve wallet challenge tx e s) performs with
    refused | ⟨_, ⟨hash, l, attached, rfl⟩, done⟩
  · exact .inl refused
  · exact .inr ⟨hash, l, attached, done⟩

/-- A wallet is given up when nothing is owed from it. -/
theorem detach_ends (caller reserve wallet : Text) (s : Bank) :
    (detach caller reserve wallet).Ends s fun result =>
      s.redemptions.walletOwes wallet = false ∧ ∃ l,
        s.ledger.detachWallet s.authority caller reserve wallet = .ok l ∧
        result = .ok () { s with ledger := l } := by
  unfold detach
  refine .get_bind (.decide_bind fun _ free => .onLedger_unit fun l detached => ?_)
  exact ⟨ensure_eq_ok_iff.mp free, l, detached, rfl⟩

theorem step_detach (caller reserve wallet : Text) (s : Bank) :
    (∃ r, s.step (.detach caller reserve wallet) = (.error (.refused r), s)) ∨
      s.redemptions.walletOwes wallet = false ∧ ∃ l,
        s.ledger.detachWallet s.authority caller reserve wallet = .ok l ∧
        s.step (.detach caller reserve wallet) = (.ok .nothing, { s with ledger := l }) := by
  have performs : perform (.detach caller reserve wallet) s =
      orFail (detach caller reserve wallet) (fun _ => .nothing) s := rfl
  rcases step_ends (detach_ends caller reserve wallet s) performs with
    refused | ⟨_, ⟨free, l, detached, rfl⟩, done⟩
  · exact .inl refused
  · exact .inr ⟨free, l, detached, done⟩

theorem registered_writes {network : Network} {l l' : Ledger} (h : l.Registered network)
    (writes : Ledger.WritesOn network l l') : l'.Registered network := by
  induction writes with
  | refl => exact h
  | tail _ write ih => exact ih.written write

/-- Minting and burning of the token alone touches neither accounts nor wallets. -/
theorem registered_onToken {op : Operation} {f : Token → Except Refusal Token}
    {answer : Unit → Answer} (performs : perform op = orFail (onToken f) answer)
    (h : s.ledger.Registered s.params.network) :
    (s.step op).2.ledger.Registered s.params.network := by
  rcases step_onLedger_ performs s with ⟨r, refused⟩ | ⟨l, changed, done⟩
  · rw [refused]
    exact h
  · obtain ⟨token, -, rfl⟩ := Check.map_eq_ok_iff.mp changed
    rw [done]
    exact ⟨h.decodes, h.owner_iff⟩

theorem step_registered (op : Operation) (h : s.ledger.Registered s.params.network) :
    (s.step op).2.ledger.Registered s.params.network := by
  cases op with
  | mintToken | burnToken => exact registered_onToken rfl h
  | _ => exact registered_writes h (step_writes _ rfl s)

theorem run_registered (authority : Authority) (relay : Relay) (params : Parameters)
    (ops : List Operation) :
    ((new authority relay params).run ops).ledger.Registered params.network := by
  induction ops using List.reverseRecOn with
  | nil => exact Ledger.empty_registered params.network
  | append_singleton ops op ih =>
    have same : ((new authority relay params).run ops).params = params := run_params _ ops
    have next := step_registered (s := (new authority relay params).run ops) op
    rw [same] at next
    rw [run_concat]
    exact next ih

/-- The registry and the accounts agree on the owner of each wallet. Two wallets name one
destination exactly when they are spelled alike. -/
theorem run_wallets (authority : Authority) (relay : Relay) (params : Parameters)
    (ops : List Operation) :
    let l := ((new authority relay params).run ops).ledger
    let network := params.network
    (∀ wallet reserve, l.walletOwners.get? wallet = some reserve ↔
      ∃ a, l.accounts.get? reserve = some a ∧ wallet ∈ a.wallets.keys) ∧
    (∀ wallet ∈ l.walletOwners.keys, ∃ d, Address.decode network wallet = .ok d ∧
      Address.encode network d = Address.spelling network wallet) ∧
    (∀ wallet ∈ l.walletOwners.keys, ∀ wallet' ∈ l.walletOwners.keys,
      Address.decode network wallet = Address.decode network wallet' ↔
        Address.spelling network wallet = Address.spelling network wallet') ∧
    ∀ wallet ∈ l.walletOwners.keys, ∀ wallet' ∈ l.walletOwners.keys,
      Address.spelling network wallet = wallet → Address.spelling network wallet' = wallet' →
      Address.decode network wallet = Address.decode network wallet' → wallet = wallet' := by
  intro l network
  have registered : l.Registered network := run_registered authority relay params ops
  have alike : ∀ wallet ∈ l.walletOwners.keys, ∀ wallet' ∈ l.walletOwners.keys,
      Address.decode network wallet = Address.decode network wallet' ↔
        Address.spelling network wallet = Address.spelling network wallet' := by
    intro wallet listed wallet' listed'
    obtain ⟨d, decoded⟩ := registered.decodes wallet listed
    obtain ⟨d', decoded'⟩ := registered.decodes wallet' listed'
    rw [← Address.decode_eq_iff decoded decoded', decoded, decoded', Except.ok.injEq]
  refine ⟨registered.owner_iff, fun wallet listed => ?_, alike, ?_⟩
  · obtain ⟨d, decoded⟩ := registered.decodes wallet listed
    exact ⟨d, decoded, Address.encode_of_decode decoded⟩
  · intro wallet listed wallet' listed' written written' same
    rw [← written, ← written']
    exact (alike wallet listed wallet' listed').mp same

/-- One wallet in lower and in upper case belongs to two reserves. -/
theorem wallet_of_two_reserves :
    let wallet : Text := "bcrt1qqyqszqgpqyqszqgpqyqszqgpqyqszqgpvxat9t"
    let other : Text := "BCRT1QQYQSZQGPQYQSZQGPQYQSZQGPQYQSZQGPVXAT9T"
    let l := ((new .everyone ⟨1, 1⟩ .testing).run
      [.register "registrar" "reserve-1" 1000 none, .register "registrar" "reserve-2" 1000 none,
        .attachWallet "registrar" "reserve-1" wallet,
        .attachWallet "registrar" "reserve-2" other]).ledger
    wallet ≠ other ∧ l.walletOwners.get? wallet = some "reserve-1" ∧
      l.walletOwners.get? other = some "reserve-2" ∧
      Address.decode .regtest wallet = .ok ⟨.p2wpkh, List.replicate 20 1⟩ ∧
      Address.decode .regtest other = .ok ⟨.p2wpkh, List.replicate 20 1⟩ := by
  decide +kernel

end BitcoinReserve.Bank
