import BitcoinReserve.Proofs.Table
import BitcoinReserve.Redemption

/-!
# The records of redemptions

A record keeps its terms for ever. Closing a redemption changes none of them, and opening one adds a
record under a new id.
-/
namespace BitcoinReserve

namespace Redemption

/-- What is agreed when a redemption is opened. -/
structure Terms where
  id : Text
  reserve : Text
  user : Text
  amount : Int
  address : Text
  wallet : Text
  requestedAt : Int
  deadline : Int

def terms (r : Redemption) : Terms :=
  ⟨r.id, r.reserve, r.user, r.amount, r.address, r.wallet, r.requestedAt, r.deadline⟩

/-- How a pending redemption ends. -/
inductive Closing (r : Redemption) : Redemption → Prop
  | fulfilled (paid : Int) (transaction : Option Bytes) (now : Int) :
      Closing r (r.fulfill paid transaction now)
  | defaulted (reason : Text) (now : Int) : Closing r (r.toDefault reason now)

theorem Closing.terms_eq {r closed : Redemption} (h : r.Closing closed) :
    closed.terms = r.terms := by
  cases h with
  | fulfilled => rfl
  | defaulted => rfl

/-- What a redemption counts for a reserve. -/
def amountFor (reserve : Text) (r : Redemption) : Int := if r.reserve = reserve then r.amount else 0

theorem amountFor_eq {r r' : Redemption} (same : r'.terms = r.terms) (reserve : Text) :
    r'.amountFor reserve = r.amountFor reserve := by
  have amounts : r'.amount = r.amount := congrArg Terms.amount same
  have reserves : r'.reserve = r.reserve := congrArg Terms.reserve same
  rw [amountFor, amountFor, amounts, reserves]

end Redemption

namespace RedemptionBook

/-- Every record stands under its own id. -/
def Keyed (b : RedemptionBook) : Prop := ∀ id r, b.records.get? id = some r → r.id = id

/-- Every record is still there, with its terms. -/
def Kept (b b' : RedemptionBook) : Prop :=
  ∀ id r, b.records.get? id = some r → ∃ r', b'.records.get? id = some r' ∧ r'.terms = r.terms

/-- The sum of all redemptions of a reserve, however they ended. -/
def promised (b : RedemptionBook) (reserve : Text) : Int :=
  b.records.sum (Redemption.amountFor reserve)

variable {b b' b'' : RedemptionBook}

theorem Kept.refl (b : RedemptionBook) : b.Kept b := fun _ r found => ⟨r, found, rfl⟩

theorem Kept.trans (first : b.Kept b') (next : b'.Kept b'') : b.Kept b'' := by
  intro id r found
  obtain ⟨r', kept, same⟩ := first id r found
  obtain ⟨r'', kept, same'⟩ := next id r' kept
  exact ⟨r'', kept, same'.trans same⟩

/-- No redemption is opened, and none is lost. -/
structure Settles (b b' : RedemptionBook) : Prop where
  count_eq : b'.count = b.count
  keys_eq : b'.records.keys = b.records.keys
  promised_eq (reserve : Text) : b'.promised reserve = b.promised reserve
  kept : b.Kept b'

/-- Where the keys are the same, a record that is kept is the record before. -/
theorem Settles.before (h : b.Settles b') {id : Text} {r' : Redemption}
    (found : b'.records.get? id = some r') :
    ∃ r, b.records.get? id = some r ∧ r'.terms = r.terms := by
  have listed : id ∈ b.records.keys := by
    rw [← h.keys_eq]
    exact Table.mem_keys_iff.mpr ⟨r', found⟩
  obtain ⟨r, before⟩ := Table.mem_keys_iff.mp listed
  obtain ⟨r'', kept, same⟩ := h.kept id r before
  cases found.symm.trans kept
  exact ⟨r, before, same⟩

theorem Settles.keyed (h : b.Settles b') (keyed : b.Keyed) : b'.Keyed := by
  intro id r' found
  obtain ⟨r, before, same⟩ := h.before found
  exact (congrArg Redemption.Terms.id same).trans (keyed id r before)

/-- A record that is closed goes by the id under which it was found. -/
theorem Keyed.closed_id (keyed : b.Keyed) {id : Text} {r closed : Redemption}
    (found : b.records.get? id = some r) (closing : r.Closing closed) : closed.id = id :=
  (congrArg Redemption.Terms.id closing.terms_eq).trans (keyed id r found)

theorem get?_settle (closed : Redemption) (id : Text) :
    (b.settle closed).records.get? id = if closed.id = id then some closed else b.records.get? id :=
  Table.get?_insert ..

theorem get?_add (r : Redemption) (id : Text) :
    (b.advance.add r).records.get? id = if r.id = id then some r else b.records.get? id :=
  Table.get?_insert ..

/-- Settling closes one record and leaves the others, whatever transactions count as used then. -/
theorem settles_settle (keyed : b.Keyed) {id : Text} {r closed : Redemption}
    (used : KeySet Bytes) (found : b.records.get? id = some r) (closing : r.Closing closed) :
    b.Settles { b.settle closed with usedTransactions := used } := by
  obtain rfl := keyed.closed_id found closing
  have same := closing.terms_eq
  refine ⟨rfl, Table.keys_insert_of_get? found, fun reserve => ?_, fun other r' found' => ?_⟩
  · exact Table.sum_insert_of_eq found (Redemption.amountFor_eq same reserve)
  · simp only [get?_settle]
    split
    · rename_i here
      subst here
      cases found.symm.trans found'
      exact ⟨closed, rfl, same⟩
    · exact ⟨r', found', rfl⟩

section add

variable {r : Redemption} (fresh : b.records.get? r.id = none)

theorem keyed_add (keyed : b.Keyed) : (b.advance.add r).Keyed := by
  intro id r' found
  rw [get?_add] at found
  split at found
  · rename_i here
    cases found
    exact here
  · exact keyed id r' found

include fresh

theorem keys_add : (b.advance.add r).records.keys = b.records.keys ++ [r.id] :=
  Table.keys_insert_of_get?_none fresh

theorem promised_add (reserve : Text) :
    (b.advance.add r).promised reserve = b.promised reserve + r.amountFor reserve := by
  have absent : b.records.amountAt (Redemption.amountFor reserve) r.id = 0 := by
    rw [Table.amountAt, fresh]
    rfl
  have sum := Table.sum_insert b.records (Redemption.amountFor reserve) r.id r
  rw [absent, Int.sub_zero] at sum
  exact sum

theorem kept_add : b.Kept (b.advance.add r) := by
  intro id r' found
  rw [get?_add]
  split
  · rename_i here
    subst here
    rw [fresh] at found
    cases found
  · exact ⟨r', found, rfl⟩

end add

end RedemptionBook

end BitcoinReserve
