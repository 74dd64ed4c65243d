import BitcoinReserve.Parameters
import BitcoinReserve.Proofs.Redemption.Records
import BitcoinReserve.Proofs.Text.Order

/-!
# Where redemptions stand

What a record says of a payment or of a default goes with its status, and the status changes once at
most. The book lists the pending redemptions by reserve and by wallet; opening and closing change the
records and the lists together.
-/
namespace BitcoinReserve

namespace Redemption

/-- Nothing is said of a payment. -/
structure Unpaid (r : Redemption) : Prop where
  amount : r.fulfilledAmount = none
  transaction : r.transaction = none
  time : r.fulfilledAt = none
  untrusted : r.trusted = false

/-- Nothing is said of a default. -/
structure Undefaulted (r : Redemption) : Prop where
  reason : r.defaultReason = none
  time : r.defaultedAt = none

/-- Enough was paid at some time, on trust exactly where no transaction is named. -/
structure Paid (p : Parameters) (r : Redemption) : Prop where
  enough : ∃ paid, r.fulfilledAmount = some paid ∧ p.dustThreshold ≤ paid ∧
    r.amount ≤ paid + p.paymentTolerance
  timed : r.fulfilledAt ≠ none
  trusted_iff : r.trusted = true ↔ r.transaction = none

/-- A default was found after the deadline, for a reason. -/
structure Overdue (r : Redemption) : Prop where
  reasoned : ∃ reason, r.defaultReason = some reason ∧ reason ≠ ""
  late : ∃ time, r.defaultedAt = some time ∧ r.deadline < time

/-- What the record says goes with its status. -/
structure Standing (p : Parameters) (r : Redemption) : Prop where
  pending : r.status = .pending → r.Unpaid ∧ r.Undefaulted
  fulfilled : r.status = .fulfilled → r.Paid p ∧ r.Undefaulted
  defaulted : r.status = .defaulted → r.Overdue ∧ r.Unpaid

variable {p : Parameters} {r closed : Redemption}

theorem standing_new (id reserve user : Text) (amount : Int) (address wallet : Text)
    (now timeout : Int) :
    (Redemption.new id reserve user amount address wallet now timeout).Standing p where
  pending _ := ⟨⟨rfl, rfl, rfl, rfl⟩, ⟨rfl, rfl⟩⟩
  fulfilled status := nomatch status
  defaulted status := nomatch status

theorem Standing.fulfill (standing : r.Standing p) (pending : r.status = .pending) {paid : Int}
    (nodust : p.dustThreshold ≤ paid) (enough : r.amount ≤ paid + p.paymentTolerance)
    (transaction : Option Bytes) (now : Int) : (r.fulfill paid transaction now).Standing p where
  pending status := nomatch status
  fulfilled _ := by
    obtain ⟨-, reason, time⟩ := standing.pending pending
    refine ⟨⟨⟨paid, rfl, nodust, enough⟩, Option.some_ne_none now, ?_⟩, ⟨reason, time⟩⟩
    exact Option.isNone_iff_eq_none
  defaulted status := nomatch status

theorem Standing.toDefault (standing : r.Standing p) (pending : r.status = .pending)
    {reason : Text} {now : Int} (reasoned : reason ≠ "") (late : r.deadline < now) :
    (r.toDefault reason now).Standing p where
  pending status := nomatch status
  fulfilled status := nomatch status
  defaulted _ := by
    obtain ⟨⟨amount, transaction, time, untrusted⟩, -⟩ := standing.pending pending
    exact ⟨⟨⟨reason, rfl, reasoned⟩, ⟨now, rfl, late⟩⟩, ⟨amount, transaction, time, untrusted⟩⟩

theorem Closing.not_pending (closing : r.Closing closed) : closed.status ≠ .pending := by
  cases closing with
  | fulfilled => exact nofun
  | defaulted => exact nofun

/-- What one step makes of the record under an id. -/
inductive Next : Option Redemption → Option Redemption → Prop
  | same (x : Option Redemption) : Next x x
  | opened {r : Redemption} (pending : r.status = .pending) : Next none (some r)
  | closed {r closed : Redemption} (pending : r.status = .pending) (closing : r.Closing closed) :
      Next (some r) (some closed)

/-- The record under an id in the course of time, up to now: missing for a while, then pending, then
closed, and each of them without a change. -/
inductive Course : List (Option Redemption) → Option Redemption → Prop
  | missing (n : Nat) : Course (List.replicate (n + 1) none) none
  | pending (n m : Nat) {r : Redemption} (pending : r.status = .pending) :
      Course (List.replicate n none ++ List.replicate (m + 1) (some r)) (some r)
  | closed (n m k : Nat) {r closed : Redemption} (pending : r.status = .pending)
      (closing : r.Closing closed) :
      Course (List.replicate n none ++ List.replicate (m + 1) (some r) ++
        List.replicate (k + 1) (some closed)) (some closed)

theorem Course.concat {xs : List (Option Redemption)} {x y : Option Redemption}
    (course : Course xs x) (next : Next x y) : Course (xs ++ [y]) y := by
  cases course with
  | missing n =>
    cases next with
    | same =>
      rw [← List.replicate_succ']
      exact .missing (n + 1)
    | opened pending => exact .pending (n + 1) 0 pending
  | pending n m pending =>
    cases next with
    | same =>
      rw [List.append_assoc, ← List.replicate_succ']
      exact .pending n (m + 1) pending
    | closed _ closing => exact .closed n m 0 pending closing
  | closed n m k pending closing =>
    cases next with
    | same =>
      rw [List.append_assoc, ← List.replicate_succ']
      exact .closed n m (k + 1) pending closing
    | closed again => exact absurd again closing.not_pending

end Redemption

namespace RedemptionBook

/-- An index lists under each key the ids of the pending redemptions that have the key, and no other
ids. -/
def Lists (index : Table Text (KeySet Text)) (records : Table Text Redemption)
    (key : Redemption → Text) : Prop :=
  ∀ k id, id ∈ (index.getD k .empty).keys ↔
    ∃ r, records.get? id = some r ∧ r.status = .pending ∧ key r = k

section Lists

variable {index : Table Text (KeySet Text)} {records : Table Text Redemption}
  {key : Redemption → Text} {r closed : Redemption}

theorem mem_join {k k' id id' : Text} :
    id ∈ ((index.insert k' (KeySet.add (index.getD k' .empty) id')).getD k .empty).keys ↔
      (k' = k ∧ id' = id) ∨ id ∈ (index.getD k .empty).keys := by
  rw [Table.getD, Table.get?_insert]
  by_cases same : k' = k
  · simp [same, KeySet.add]
  · simp [same, Table.getD]

theorem mem_leave {k k' id id' : Text} :
    id ∈ ((index.modify k' fun ids => ids.erase id').getD k .empty).keys ↔
      id ∈ (index.getD k .empty).keys ∧ ¬ (k' = k ∧ id' = id) := by
  rw [Table.getD, Table.get?_modify, Table.getD]
  by_cases same : k' = k
  · subst same
    cases index.get? k' with
    | none => simp
    | some ids => simp [and_comm]
  · simp [same]

theorem lists_empty (key : Redemption → Text) : Lists .empty .empty key := by
  intro k id
  simp [Table.getD]

/-- Opening a redemption under a new id. -/
theorem Lists.add (lists : Lists index records key) (fresh : records.get? r.id = none)
    (pending : r.status = .pending) :
    Lists (index.insert (key r) (KeySet.add (index.getD (key r) .empty) r.id))
      (records.insert r.id r) key := by
  intro k id
  rw [mem_join, lists k id, Table.get?_insert]
  by_cases here : r.id = id
  · subst here
    simp [fresh, pending]
  · simp [here]

/-- Closing the redemption that stands under its id. -/
theorem Lists.settle (lists : Lists index records key) (found : records.get? closed.id = some r)
    (same : key closed = key r) (ended : closed.status ≠ .pending) :
    Lists (index.modify (key closed) fun ids => ids.erase closed.id)
      (records.insert closed.id closed) key := by
  intro k id
  rw [mem_leave, lists k id, Table.get?_insert]
  by_cases here : closed.id = id
  · subst here
    simp [found, same, ended]
  · simp [here]

end Lists

/-- The records are consistent, and the lists agree with them. -/
structure Consistent (p : Parameters) (b : RedemptionBook) : Prop where
  standing : ∀ id r, b.records.get? id = some r → r.Standing p
  byReserve : Lists b.pendingByReserve b.records Redemption.reserve
  byWallet : Lists b.pendingByWallet b.records Redemption.wallet

variable {p : Parameters} {b : RedemptionBook}

theorem consistent_empty (p : Parameters) : Consistent p .empty where
  standing _ _ found := nomatch found
  byReserve := lists_empty Redemption.reserve
  byWallet := lists_empty Redemption.wallet

theorem Consistent.add {r : Redemption} (h : b.Consistent p)
    (fresh : b.records.get? r.id = none) (pending : r.status = .pending)
    (standing : r.Standing p) : (b.advance.add r).Consistent p where
  standing id r' found := by
    rw [get?_add] at found
    split at found
    · cases found
      exact standing
    · exact h.standing id r' found
  byReserve := h.byReserve.add fresh pending
  byWallet := h.byWallet.add fresh pending

theorem Consistent.settle {r closed : Redemption} (h : b.Consistent p) (used : KeySet Bytes)
    (found : b.records.get? closed.id = some r) (closing : r.Closing closed)
    (standing : closed.Standing p) :
    Consistent p { b.settle closed with usedTransactions := used } where
  standing id r' found' := by
    simp only [get?_settle] at found'
    split at found'
    · cases found'
      exact standing
    · exact h.standing id r' found'
  byReserve := h.byReserve.settle found (congrArg Redemption.Terms.reserve closing.terms_eq)
    closing.not_pending
  byWallet := h.byWallet.settle found (congrArg Redemption.Terms.wallet closing.terms_eq)
    closing.not_pending

/-- The pending redemptions of a reserve are those of its list. -/
theorem Consistent.mem_pending (h : b.Consistent p) (keyed : b.Keyed) {reserve : Text}
    {r : Redemption} :
    r ∈ b.pending reserve ↔
      b.records.get? r.id = some r ∧ r.status = .pending ∧ r.reserve = reserve := by
  simp only [pending, List.mem_filterMap, Text.mem_sort]
  constructor
  · rintro ⟨id, listed, found⟩
    obtain ⟨r', found', pending, same⟩ := (h.byReserve reserve id).mp listed
    cases found.symm.trans found'
    rw [keyed id r found]
    exact ⟨found, pending, same⟩
  · rintro ⟨found, pending, same⟩
    exact ⟨r.id, (h.byReserve reserve r.id).mpr ⟨r, found, pending, same⟩, found⟩

/-- They stand in the order of their ids, none twice. -/
theorem pending_pairwise (keyed : b.Keyed) (reserve : Text) :
    (b.pending reserve).Pairwise fun r r' => r.id.values < r'.id.values := by
  have sorted := Text.sort_pairwise (b.pendingByReserve.getD reserve .empty).nodup
  refine sorted.filterMap b.records.get? fun id id' before r found r' found' => ?_
  rw [keyed id r found, keyed id' r' found']
  exact before

theorem not_isEmpty_iff {ids : KeySet Text} :
    (!KeySet.isEmpty ids) = true ↔ ∃ id, id ∈ Table.keys ids := by
  rw [Bool.not_eq_true', KeySet.isEmpty, ← List.isEmpty_map (f := Prod.fst)]
  exact List.isEmpty_eq_false_iff_exists_mem

theorem Consistent.reserveOwes_iff (h : b.Consistent p) (reserve : Text) :
    b.reserveOwes reserve = true ↔
      ∃ id r, b.records.get? id = some r ∧ r.status = .pending ∧ r.reserve = reserve := by
  simp only [reserveOwes, not_isEmpty_iff, h.byReserve reserve]

theorem Consistent.walletOwes_iff (h : b.Consistent p) (wallet : Text) :
    b.walletOwes wallet = true ↔
      ∃ id r, b.records.get? id = some r ∧ r.status = .pending ∧ r.wallet = wallet := by
  simp only [walletOwes, not_isEmpty_iff, h.byWallet wallet]

end RedemptionBook

end BitcoinReserve
