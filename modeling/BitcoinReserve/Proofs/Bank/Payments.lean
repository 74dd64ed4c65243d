import BitcoinReserve.Proofs.Bank.Openings
import BitcoinReserve.Proofs.Bitcoin.Confirmation
import BitcoinReserve.Proofs.Bitcoin.Scripts

/-!
# One transaction for one redemption

The transactions that count as used are those that proved a payout, each of them a single one. What
is recorded of such a payout is what the transaction paid, and the evidence for it was accepted when
the redemption was fulfilled.
-/
namespace BitcoinReserve

/-- What the outputs of a transaction hold that have the script of an address. -/
def Transaction.Pays (tx : Transaction) (network : Network) (address : Text) (paid : Int) : Prop :=
  ∃ d script outputs, Address.decode network address = .ok d ∧ d.script = .ok script ∧
    OutputVector.decode tx.outputVector = .ok outputs ∧
    paid = ((outputs.filter fun o => o.script = script).map TxOutput.value).sum

/-- The transaction proved the payout. -/
structure Redemption.PaidBy (r : Redemption) (hash : Bytes) : Prop where
  fulfilled : r.status = .fulfilled
  untrusted : r.trusted = false
  transaction : r.transaction = some hash

theorem Redemption.not_paidBy_of_pending {r : Redemption} (pending : r.status = .pending)
    (hash : Bytes) : ¬ r.PaidBy hash := by
  rintro ⟨fulfilled, -, -⟩
  cases pending.symm.trans fulfilled

namespace RedemptionBook

/-- The used transactions are those that proved a payout, and none proved two. -/
structure PaidOnce (b : RedemptionBook) : Prop where
  used_iff : ∀ hash, hash ∈ b.usedTransactions.keys ↔
    ∃ id r, b.records.get? id = some r ∧ r.PaidBy hash
  unique : ∀ id id' r r' hash, b.records.get? id = some r → b.records.get? id' = some r' →
    r.PaidBy hash → r'.PaidBy hash → id = id'

variable {b : RedemptionBook} {r closed : Redemption}

theorem paidOnce_empty : empty.PaidOnce where
  used_iff hash := by simp [empty]
  unique _ _ _ _ _ found := nomatch found

/-- A new redemption is not paid yet. -/
theorem paidBy_add_iff (fresh : b.records.get? r.id = none) (pending : r.status = .pending)
    {id : Text} {r' : Redemption} {hash : Bytes} :
    (b.advance.add r).records.get? id = some r' ∧ r'.PaidBy hash ↔
      b.records.get? id = some r' ∧ r'.PaidBy hash := by
  have unpaid := Redemption.not_paidBy_of_pending pending hash
  rw [get?_add]
  split
  · rename_i here
    subst here
    simp only [fresh, reduceCtorEq, false_and, iff_false, not_and]
    rintro ⟨⟩
    exact unpaid
  · exact Iff.rfl

/-- After a redemption is closed it may be paid, and the others are as before. -/
theorem paidBy_settle_iff (found : b.records.get? closed.id = some r) (pending : r.status = .pending)
    {id : Text} {r' : Redemption} {hash : Bytes} :
    (b.settle closed).records.get? id = some r' ∧ r'.PaidBy hash ↔
      (id = closed.id ∧ r' = closed ∧ closed.PaidBy hash) ∨
        (b.records.get? id = some r' ∧ r'.PaidBy hash) := by
  have unpaid := Redemption.not_paidBy_of_pending pending hash
  rw [get?_settle]
  split
  · rename_i here
    subst here
    simp only [found, Option.some.injEq, true_and]
    constructor
    · rintro ⟨rfl, paid⟩
      exact .inl ⟨rfl, paid⟩
    · rintro (⟨rfl, paid⟩ | ⟨rfl, paid⟩)
      · exact ⟨rfl, paid⟩
      · exact absurd paid unpaid
  · rename_i other
    have elsewhere : id ≠ closed.id := Ne.symm other
    simp [elsewhere]

theorem PaidOnce.add (h : b.PaidOnce) (fresh : b.records.get? r.id = none)
    (pending : r.status = .pending) : (b.advance.add r).PaidOnce where
  used_iff hash := by
    simp only [paidBy_add_iff fresh pending]
    exact h.used_iff hash
  unique id id' r' r'' hash found found' paid paid' := by
    have first := (paidBy_add_iff fresh pending).mp ⟨found, paid⟩
    have second := (paidBy_add_iff fresh pending).mp ⟨found', paid'⟩
    exact h.unique id id' r' r'' hash first.1 second.1 paid paid'

/-- Closing a redemption uses the transaction that proves its payout, which was not used before. -/
theorem PaidOnce.settle (h : b.PaidOnce) {used : KeySet Bytes}
    (found : b.records.get? closed.id = some r) (pending : r.status = .pending)
    (uses : ∀ hash, hash ∈ used.keys ↔ closed.PaidBy hash ∨ hash ∈ b.usedTransactions.keys)
    (unused : ∀ hash, closed.PaidBy hash → hash ∉ b.usedTransactions.keys) :
    PaidOnce { b.settle closed with usedTransactions := used } where
  used_iff hash := by
    simp only [uses, paidBy_settle_iff found pending, h.used_iff hash]
    constructor
    · rintro (paid | ⟨id, r', found', paid⟩)
      · exact ⟨closed.id, closed, .inl ⟨rfl, rfl, paid⟩⟩
      · exact ⟨id, r', .inr ⟨found', paid⟩⟩
    · rintro ⟨id, r', ⟨-, -, paid⟩ | old⟩
      · exact .inl paid
      · exact .inr ⟨id, r', old⟩
  unique id id' r' r'' hash found' found'' paid paid' := by
    rcases (paidBy_settle_iff found pending).mp ⟨found', paid⟩ with ⟨rfl, rfl, new⟩ | old
    · rcases (paidBy_settle_iff found pending).mp ⟨found'', paid'⟩ with ⟨rfl, -, -⟩ | old'
      · rfl
      · exact absurd ((h.used_iff hash).mpr ⟨id', r'', old'⟩) (unused hash new)
    · rcases (paidBy_settle_iff found pending).mp ⟨found'', paid'⟩ with ⟨rfl, rfl, new⟩ | old'
      · exact absurd ((h.used_iff hash).mpr ⟨id, r', old⟩) (unused hash new)
      · exact h.unique id id' r' r'' hash old.1 old'.1 paid paid'

end RedemptionBook

namespace Bank

variable {s : Bank}

/-- What counts as used after a closing is what did before, and the transaction that proved it. -/
theorem Closes.mem_used {op : Operation} {r closed : Redemption} {used : KeySet Bytes}
    (closes : s.Closes op r closed used) (hash : Bytes) :
    hash ∈ used.keys ↔ closed.PaidBy hash ∨ hash ∈ s.redemptions.usedTransactions.keys := by
  cases closes with
  | @paid tx e claimed paid found now presents proved =>
    have proves : (r.fulfill paid (some found) now).PaidBy hash ↔ found = hash := by
      constructor
      · exact fun paid => Option.some.inj paid.transaction
      · rintro rfl
        exact ⟨rfl, rfl, rfl⟩
    rw [proves, KeySet.add, Table.mem_keys_insert]
  | @trusted paid now enough =>
    have nothing : ¬ (r.fulfill paid none now).PaidBy hash := fun paid => nomatch paid.untrusted
    rw [or_iff_right nothing]
  | @defaulted reason now reasoned overdue =>
    have nothing : ¬ (r.toDefault reason now).PaidBy hash := fun paid => nomatch paid.fulfilled
    rw [or_iff_right nothing]

theorem Closes.unused {op : Operation} {r closed : Redemption} {used : KeySet Bytes}
    (closes : s.Closes op r closed used) (hash : Bytes) (paid : closed.PaidBy hash) :
    hash ∉ s.redemptions.usedTransactions.keys := by
  cases closes with
  | paid now presents proved =>
    obtain ⟨-, unused, -⟩ := checkProof_eq_ok_iff.mp proved
    cases paid.transaction
    exact Table.contains_eq_false_iff.mp unused
  | trusted => cases paid.untrusted
  | defaulted => cases paid.fulfilled

/-- The event fulfils a redemption by a transaction: it is accepted at the difficulty that the
parameters ask for and what the relay says then, and pays the amount that is recorded. -/
structure Event.Pays (e : Event) (id : Text) (r : Redemption) (tx : Transaction)
    (evidence : Evidence) : Prop where
  presents : e.operation.presented? = some (tx, evidence)
  pending : (e.found.redemptions.records.get? id).map Redemption.status = some .pending
  recorded : (e.found.step e.operation).2.redemptions.records.get? id = some r
  accepted : e.found.verifier.verify tx evidence (some e.found.params.difficultyFactor) =
    .ok tx.hash
  transaction : r.transaction = some tx.hash
  amount : ∃ paid, r.fulfilledAmount = some paid ∧ tx.Pays e.found.params.network r.address paid

/-- What a transaction that is accepted pays to an address is the amount that is counted. -/
theorem pays_iff {network : Network} {address : Text} {d : Destination} {v : Verifier}
    {tx : Transaction} {e : Evidence} {factor : Option Int} {hash : Bytes} {paid : Int}
    (decodes : Address.decode network address = .ok d)
    (accepted : v.verify tx e factor = .ok hash) :
    tx.Pays network address paid ↔ paid = amountPaid network address tx.outputVector := by
  have standard := Address.standard_of_decode decodes
  obtain ⟨script, written⟩ := Destination.exists_script standard
  obtain ⟨outputs, read⟩ := Verifier.exists_outputs_of_verify accepted
  rw [amountPaid_of_decode decodes read, Destination.amountPaid_of_script standard written]
  constructor
  · rintro ⟨d', script', outputs', decodes', written', read', total⟩
    cases decodes.symm.trans decodes'
    cases written.symm.trans written'
    cases read.symm.trans read'
    exact total
  · exact fun total => ⟨d, script, outputs, decodes, written, read, total⟩

/-- A closing by which a redemption is fulfilled without trust is a payment. -/
theorem Closes.pays {op : Operation} {id : Text} {r closed : Redemption} {used : KeySet Bytes}
    {d : Destination} (closes : s.Closes op r closed used)
    (found : s.redemptions.records.get? id = some r) (pending : r.status = .pending)
    (decodes : Address.decode s.params.network r.address = .ok d)
    (recorded : (s.step op).2.redemptions.records.get? id = some closed)
    (fulfilled : closed.status = .fulfilled) (untrusted : closed.trusted = false) :
    ∃ tx evidence, Event.Pays ⟨s, op⟩ id closed tx evidence := by
  cases closes with
  | @paid tx evidence claimed paid hash now presents proved =>
    obtain ⟨accepted, -, total, -⟩ := checkProof_eq_ok_iff.mp proved
    obtain ⟨rfl, -⟩ := Verifier.confirms_of_verify accepted
    refine ⟨tx, evidence, presents, ?_, recorded, accepted, rfl, paid, rfl, ?_⟩
    · simp [found, pending]
    · exact (pays_iff decodes accepted).mpr total
  | trusted => cases untrusted
  | defaulted => cases fulfilled

/-- What is known of the payouts after a run. -/
structure Discharged (s : Bank) (ops : List Operation) : Prop where
  once : (s.run ops).redemptions.PaidOnce
  addressed : ∀ id r, (s.run ops).redemptions.records.get? id = some r →
    ∃ d, Address.decode s.params.network r.address = .ok d
  paid : ∀ id r, (s.run ops).redemptions.records.get? id = some r → r.status = .fulfilled →
    r.trusted = false → ∃ e ∈ s.events ops, ∃ tx evidence, e.Pays id r tx evidence

theorem discharged_new (authority : Authority) (relay : Relay) (params : Parameters) :
    (new authority relay params).Discharged [] where
  once := RedemptionBook.paidOnce_empty
  addressed _ _ found := nomatch found
  paid _ _ found := nomatch found

namespace Event.Books

variable {e : Event} {b : RedemptionBook}

theorem once (books : e.Books b) (keyed : e.found.redemptions.Keyed) (fresh : e.Fresh)
    (h : e.found.redemptions.PaidOnce) : b.PaidOnce := by
  cases books with
  | kept => exact h
  | unnamed => exact ⟨h.used_iff, h.unique⟩
  | opened redeemable seeded hashes opens => exact h.add (fresh _ opens) rfl
  | closed opens found pending closes =>
    obtain rfl := keyed.closed_id found closes.closing
    exact h.settle found pending closes.mem_used closes.unused

/-- The address of a new record decodes, and that of an old one is the same as before. -/
theorem addressed (books : e.Books b) (keyed : e.found.redemptions.Keyed) {network : Network}
    (same : e.found.params.network = network)
    (h : ∀ id r, e.found.redemptions.records.get? id = some r →
      ∃ d, Address.decode network r.address = .ok d) :
    ∀ id r, b.records.get? id = some r → ∃ d, Address.decode network r.address = .ok d := by
  cases books with
  | kept => exact h
  | unnamed => exact h
  | opened redeemable =>
    intro id r found
    rw [RedemptionBook.get?_add] at found
    split at found
    · cases found
      rw [← same]
      exact redeemable.decodes
    · exact h id r found
  | @closed id r closed used opens found pending closes =>
    have settles := RedemptionBook.settles_settle keyed used found closes.closing
    intro id r' found'
    obtain ⟨r, before, terms⟩ := settles.before found'
    have address : r'.address = r.address := congrArg Redemption.Terms.address terms
    rw [address]
    exact h id r before

/-- A redemption that is fulfilled without trust was so before, or the event paid for it. -/
theorem pays (books : e.Books b) (keyed : e.found.redemptions.Keyed)
    (addressed : ∀ id r, e.found.redemptions.records.get? id = some r →
      ∃ d, Address.decode e.found.params.network r.address = .ok d)
    (done : (e.found.step e.operation).2.redemptions = b) {id : Text} {r : Redemption}
    (found : b.records.get? id = some r) (fulfilled : r.status = .fulfilled)
    (untrusted : r.trusted = false) :
    e.found.redemptions.records.get? id = some r ∨ ∃ tx evidence, e.Pays id r tx evidence := by
  have recorded := found
  rw [← done] at recorded
  cases books with
  | kept => exact .inl found
  | unnamed => exact .inl found
  | opened =>
    rw [RedemptionBook.get?_add] at found
    split at found
    · cases found
      cases fulfilled
    · exact .inl found
  | @closed id' r' closed used opens before pending closes =>
    obtain rfl := keyed.closed_id before closes.closing
    simp only [RedemptionBook.get?_settle] at found
    split at found
    · rename_i here
      cases found
      rw [here] at before
      obtain ⟨d, decodes⟩ := addressed id r' before
      exact .inr (closes.pays before pending decodes recorded fulfilled untrusted)
    · exact .inl found

end Event.Books

theorem Discharged.concat {ops : List Operation} {op : Operation} (h : s.Discharged ops)
    (keyed : (s.run ops).redemptions.Keyed) (fresh : Event.Fresh ⟨s.run ops, op⟩)
    (books : Event.Books ⟨s.run ops, op⟩ (s.run (ops ++ [op])).redemptions) :
    s.Discharged (ops ++ [op]) := by
  have same : (s.run ops).params = s.params := run_params s ops
  refine ⟨books.once keyed fresh h.once,
    books.addressed keyed (congrArg Parameters.network same) h.addressed, ?_⟩
  intro id r found fulfilled untrusted
  have addressed := h.addressed
  rw [← same] at addressed
  have done : ((s.run ops).step op).2.redemptions = (s.run (ops ++ [op])).redemptions := by
    rw [run_concat]
  simp only [events_concat, List.mem_append, List.mem_singleton]
  rcases books.pays keyed addressed done found fulfilled untrusted with before | pays
  · obtain ⟨e, mem, pays⟩ := h.paid id r before fulfilled untrusted
    exact ⟨e, .inl mem, pays⟩
  · exact ⟨_, .inr rfl, pays⟩

/-- An operation that closes no redemption though it could, changes nothing. -/
theorem step_of_declined {op : Operation} (closes : op.closes = true)
    (declined : Event.declined ⟨s, op⟩) : (s.step op).2 = s := by
  have settles := step_settles op closes s
  generalize (s.step op).2 = t at settles
  cases settles with
  | declined => rfl
  | closed done => exact absurd declined done

/-- As long as no ids collide, the transactions that count as used are those of the redemptions
fulfilled without trust. None fulfilled two, and each was accepted and paid the recorded amount when
it was presented. -/
theorem run_payments (authority : Authority) (relay : Relay) (params : Parameters)
    (ops : List Operation) (collisionless : (new authority relay params).Collisionless ops) :
    let s := new authority relay params
    let b := (s.run ops).redemptions
    (∀ hash, hash ∈ b.usedTransactions.keys ↔
      ∃ id r, b.records.get? id = some r ∧ r.PaidBy hash) ∧
    (∀ id id' r r' hash, b.records.get? id = some r → b.records.get? id' = some r' →
      r.PaidBy hash → r'.PaidBy hash → id = id') ∧
    (∀ id r, b.records.get? id = some r → r.status = .fulfilled → r.trusted = false →
      ∃ e ∈ s.events ops, ∃ tx evidence, e.Pays id r tx evidence) ∧
    ∀ e ∈ s.events ops, e.operation.closes = true → e.declined →
      (e.found.step e.operation).2 = e.found := by
  intro s b
  have discharged : s.Discharged ops := by
    refine run_induction authority relay params (discharged_new authority relay params) ?_
      collisionless
    exact fun ops op before keyed fresh books => before.concat keyed fresh books
  exact ⟨discharged.once.used_iff, discharged.once.unique, discharged.paid,
    fun e _ closes declined => step_of_declined closes declined⟩

/-- A redemption that is fulfilled by a transaction in a block of its own. -/
theorem run_payments_relayed :
    let zeros := Bytes.zeros
    let tx : Transaction := ⟨zeros 4, [1] ++ zeros 36 ++ [0] ++ zeros 4,
      [1, 0xe8, 3] ++ zeros 6 ++ [22, 0, 20] ++ List.replicate 20 11, zeros 4⟩
    let evidence : Evidence := ⟨[], 0,
      zeros 36 ++ tx.hash ++ zeros 4 ++ [0xff, 0xff, 0x7f, 0x20, 1, 0, 0, 0], sha256 tx.serialize, []⟩
    let id := Hex.encode (sha256 "reserve_user_1_0".toUTF8.data.toList)
    let ops := redeeming "user" ++ [.fulfill "relayer" id 1000 tx evidence 5]
    let b := ((new .everyone ⟨1, 1⟩ .testing).run ops).redemptions
    (new .everyone ⟨1, 1⟩ .testing).Collisionless ops ∧ tx.hash ∈ b.usedTransactions.keys ∧
      ∃ id r, b.records.get? id = some r ∧ r.PaidBy tx.hash ∧
        ∃ e ∈ (new .everyone ⟨1, 1⟩ .testing).events ops, ∃ tx evidence, e.Pays id r tx evidence := by
  intro zeros tx evidence id ops b
  have one : ∀ p ∈ (new .everyone ⟨1, 1⟩ .testing).hashed ops,
      p = "reserve_user_1_0".toUTF8.data.toList := by decide +kernel
  have collisionless := collisionless_of_eq one
  obtain ⟨used_iff, -, pays, -⟩ := run_payments .everyone ⟨1, 1⟩ .testing ops collisionless
  have used : tx.hash ∈ b.usedTransactions.keys := by decide +kernel
  obtain ⟨id, r, found, paid⟩ := (used_iff tx.hash).mp used
  exact ⟨collisionless, used, id, r, found, paid, pays id r found paid.fulfilled paid.untrusted⟩

end Bank

end BitcoinReserve
