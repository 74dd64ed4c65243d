import BitcoinReserve.Proofs.Redemption.Standing

/-!
# Redemptions of other reserves

The records of all reserves stand in one table under their ids, and the lists of the pending ones by
reserve and by wallet. Opening a redemption under a new id or closing one leaves those of every other
reserve as they were.
-/
namespace BitcoinReserve.RedemptionBook

/-- The redemptions of a reserve are the same and are listed in the same places. -/
structure Spares (b b' : RedemptionBook) (reserve : Text) : Prop where
  records : b.records.SameOn (·.reserve = reserve) b'.records
  pending : b'.pendingByReserve.get? reserve = b.pendingByReserve.get? reserve
  byReserve : ∀ id r, b.records.get? id = some r → r.reserve = reserve → ∀ key,
    id ∈ (b'.pendingByReserve.getD key .empty).keys ↔
      id ∈ (b.pendingByReserve.getD key .empty).keys
  byWallet : ∀ id r, b.records.get? id = some r → r.reserve = reserve → ∀ wallet,
    id ∈ (b'.pendingByWallet.getD wallet .empty).keys ↔
      id ∈ (b.pendingByWallet.getD wallet .empty).keys

variable {b b' : RedemptionBook} {reserve : Text} {r closed : Redemption}

theorem Spares.of_eq (records : b'.records = b.records)
    (byReserve : b'.pendingByReserve = b.pendingByReserve)
    (byWallet : b'.pendingByWallet = b.pendingByWallet) : b.Spares b' reserve where
  records := by
    rw [records]
    exact .refl _ _
  pending := by rw [byReserve]
  byReserve _ _ _ _ _ := by rw [byReserve]
  byWallet _ _ _ _ _ := by rw [byWallet]

theorem Spares.refl (b : RedemptionBook) (reserve : Text) : b.Spares b reserve := .of_eq rfl rfl rfl

theorem spares_add (fresh : b.records.get? r.id = none) (apart : r.reserve ≠ reserve) :
    b.Spares (b.advance.add r) reserve := by
  have other {id : Text} {r' : Redemption} (found : b.records.get? id = some r') : r.id ≠ id := by
    rintro rfl
    cases fresh.symm.trans found
  refine ⟨.insert apart fun r' found => ?_, ?_, fun id r' found _ key => ?_,
    fun id r' found _ wallet => ?_⟩
  · cases fresh.symm.trans found
  · exact Table.get?_insert_of_ne _ _ apart
  · refine mem_join.trans (or_iff_right ?_)
    exact fun here => other found here.2
  · refine mem_join.trans (or_iff_right ?_)
    exact fun here => other found here.2

theorem spares_settle (found : b.records.get? closed.id = some r) (own : closed.reserve = r.reserve)
    (apart : r.reserve ≠ reserve) (used : KeySet Bytes) :
    b.Spares { b.settle closed with usedTransactions := used } reserve := by
  have other {id : Text} {r' : Redemption} (found' : b.records.get? id = some r')
      (own' : r'.reserve = reserve) : closed.id ≠ id := by
    rintro rfl
    cases found.symm.trans found'
    exact apart own'
  have elsewhere : closed.reserve ≠ reserve := own ▸ apart
  refine ⟨.insert elsewhere fun r' found' own' => ?_, ?_, fun id r' found' own' key => ?_,
    fun id r' found' own' wallet => ?_⟩
  · exact other found' own' rfl
  · exact Table.get?_modify_of_ne _ _ elsewhere
  · refine mem_leave.trans (and_iff_left ?_)
    exact fun here => other found' own' here.2
  · refine mem_leave.trans (and_iff_left ?_)
    exact fun here => other found' own' here.2

end BitcoinReserve.RedemptionBook
