import BitcoinReserve.Proofs.Bank.Openings
import BitcoinReserve.Proofs.Redemption.Standing

/-!
# The life of redemptions

Over a whole run every record is pending first and is closed at most once, and then it stays as it is.
What it says goes with its status, and the lists of pending redemptions agree with the records.
-/
namespace BitcoinReserve.Bank

variable {s : Bank}

/-- The record under an id at the start and after each operation. -/
def history (s : Bank) (ops : List Operation) (id : Text) : List (Option Redemption) :=
  ops.inits.map fun done => (s.run done).redemptions.records.get? id

theorem history_concat (s : Bank) (ops : List Operation) (op : Operation) (id : Text) :
    s.history (ops ++ [op]) id =
      s.history ops id ++ [(s.run (ops ++ [op])).redemptions.records.get? id] := by
  simp [history, List.inits_append]

theorem Closes.standing {op : Operation} {r closed : Redemption} {used : KeySet Bytes}
    (closes : s.Closes op r closed used) (pending : r.status = .pending)
    (standing : r.Standing s.params) : closed.Standing s.params := by
  cases closes with
  | paid now presents proved =>
    obtain ⟨-, -, -, -, enough⟩ := checkProof_eq_ok_iff.mp proved
    obtain ⟨nodust, enough⟩ := checkPayment_eq_ok_iff.mp enough
    exact standing.fulfill pending nodust enough _ now
  | trusted now enough =>
    obtain ⟨nodust, enough⟩ := checkPayment_eq_ok_iff.mp enough
    exact standing.fulfill pending nodust enough none now
  | defaulted reasoned overdue => exact standing.toDefault pending reasoned overdue

namespace Event.Books

variable {e : Event} {b : RedemptionBook}

theorem next (books : e.Books b) (keyed : e.found.redemptions.Keyed) (fresh : e.Fresh) (id : Text) :
    Redemption.Next (e.found.redemptions.records.get? id) (b.records.get? id) := by
  cases books with
  | kept => exact .same _
  | unnamed => exact .same _
  | opened redeemable seeded hashes opens =>
    have missing := fresh _ opens
    rw [RedemptionBook.get?_add]
    split
    · rename_i here
      subst here
      rw [missing]
      exact .opened rfl
    · exact .same _
  | closed opens found pending closes =>
    obtain rfl := keyed.closed_id found closes.closing
    simp only [RedemptionBook.get?_settle]
    split
    · rename_i here
      rw [← here, found]
      exact .closed pending closes.closing
    · exact .same _

theorem consistent (books : e.Books b) (keyed : e.found.redemptions.Keyed) (fresh : e.Fresh)
    (h : e.found.redemptions.Consistent e.found.params) : b.Consistent e.found.params := by
  cases books with
  | kept => exact h
  | unnamed => exact ⟨h.standing, h.byReserve, h.byWallet⟩
  | opened redeemable seeded hashes opens =>
    exact h.add (fresh _ opens) rfl (Redemption.standing_new ..)
  | @closed id r closed used opens found pending closes =>
    have standing := closes.standing pending (h.standing id r found)
    obtain rfl := keyed.closed_id found closes.closing
    exact h.settle used found closes.closing standing

end Event.Books

/-- What the records say goes with their statuses, and the lists agree with them, after every run in
which ids do not collide. -/
theorem run_consistent (authority : Authority) (relay : Relay) (params : Parameters)
    {ops : List Operation} (collisionless : (new authority relay params).Collisionless ops) :
    ((new authority relay params).run ops).redemptions.Consistent params := by
  refine run_induction authority relay params (P := fun ops =>
    ((new authority relay params).run ops).redemptions.Consistent params) ?_ ?_ collisionless
  · exact RedemptionBook.consistent_empty params
  · intro ops op before keyed fresh books
    have same : ((new authority relay params).run ops).params = params := run_params _ ops
    have next := books.consistent keyed fresh
    simp only [same] at next
    exact next before

/-- As long as no ids collide, a redemption is pending first and is closed at most once, and a
reserve and a wallet list the ids of their pending redemptions and no others. -/
theorem run_lifecycle (authority : Authority) (relay : Relay) (params : Parameters)
    (ops : List Operation) (collisionless : (new authority relay params).Collisionless ops) :
    let s := new authority relay params
    let b := (s.run ops).redemptions
    (∀ id, Redemption.Course (s.history ops id) (b.records.get? id)) ∧
    (∀ id r, b.records.get? id = some r → r.id = id ∧ r.Standing params) ∧
    (∀ reserve id, id ∈ (b.pendingByReserve.getD reserve .empty).keys ↔
      ∃ r, b.records.get? id = some r ∧ r.status = .pending ∧ r.reserve = reserve) ∧
    (∀ wallet id, id ∈ (b.pendingByWallet.getD wallet .empty).keys ↔
      ∃ r, b.records.get? id = some r ∧ r.status = .pending ∧ r.wallet = wallet) ∧
    (∀ reserve, (b.pending reserve).Pairwise (fun r r' => r.id.values < r'.id.values) ∧
      ∀ r, r ∈ b.pending reserve ↔
        b.records.get? r.id = some r ∧ r.status = .pending ∧ r.reserve = reserve) ∧
    (∀ reserve, b.reserveOwes reserve = true ↔
      ∃ id r, b.records.get? id = some r ∧ r.status = .pending ∧ r.reserve = reserve) ∧
    (∀ wallet, b.walletOwes wallet = true ↔
      ∃ id r, b.records.get? id = some r ∧ r.status = .pending ∧ r.wallet = wallet) := by
  intro s b
  have keyed : b.Keyed := (booked_run authority relay params collisionless).keyed
  have courses : ∀ id, Redemption.Course (s.history ops id) (b.records.get? id) := by
    refine run_induction authority relay params (P := fun ops => ∀ id, Redemption.Course
      (s.history ops id) ((s.run ops).redemptions.records.get? id)) ?_ ?_ collisionless
    · exact fun id => .missing 0
    · intro ops op before keyed fresh books id
      rw [history_concat]
      exact (before id).concat (books.next keyed fresh id)
  have consistent : b.Consistent params := run_consistent authority relay params collisionless
  exact ⟨courses, fun id r found => ⟨keyed id r found, consistent.standing id r found⟩,
    consistent.byReserve, consistent.byWallet,
    fun reserve => ⟨RedemptionBook.pending_pairwise keyed reserve,
      fun r => consistent.mem_pending keyed⟩,
    consistent.reserveOwes_iff, consistent.walletOwes_iff⟩

/-- A redemption that is fulfilled on trust. -/
theorem run_lifecycle_trusted :
    let id := Hex.encode (sha256 "reserve_user_1_0".toUTF8.data.toList)
    let opening := redeeming "user"
    let ops := opening ++ [.fulfillTrusted "fulfiller" id 1000 5]
    let before := ((new .everyone ⟨1, 1⟩ .testing).run opening).redemptions
    let b := ((new .everyone ⟨1, 1⟩ .testing).run ops).redemptions
    (new .everyone ⟨1, 1⟩ .testing).Collisionless ops ∧
      id ∈ (before.pendingByReserve.getD "reserve" .empty).keys ∧
      (∃ r, b.records.get? id = some r ∧ r.status = .fulfilled ∧ r.Paid .testing) ∧
      b.reserveOwes "reserve" = false := by
  intro id opening ops before b
  have one : ∀ p ∈ (new .everyone ⟨1, 1⟩ .testing).hashed ops,
      p = "reserve_user_1_0".toUTF8.data.toList := by decide +kernel
  have collisionless := collisionless_of_eq one
  obtain ⟨-, standing, -⟩ := run_lifecycle .everyone ⟨1, 1⟩ .testing ops collisionless
  have status : (b.records.get? id).map Redemption.status = some .fulfilled := by decide +kernel
  obtain ⟨r, found, fulfilled⟩ := Option.map_eq_some_iff.mp status
  have stands : r.Standing .testing := (standing id r found).2
  have paid : r.Paid .testing := (stands.fulfilled fulfilled).1
  exact ⟨collisionless, by decide +kernel, ⟨r, found, fulfilled, paid⟩, by decide +kernel⟩

end BitcoinReserve.Bank
