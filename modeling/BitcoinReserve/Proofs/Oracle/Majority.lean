import BitcoinReserve.Oracle
import BitcoinReserve.Proofs.Table

/-!
# Majorities

More than half of the attestations of a round name one amount, or no amount has a majority. Which one
has it depends on how often each amount is named and on nothing else.
-/
namespace BitcoinReserve

/-- How many attestations name the amount. -/
def Attestation.votes (entries : List Attestation) (amount : Int) : Nat :=
  entries.countP (·.amount = amount)

namespace Round

/-- How many attestations of the round name the amount. -/
def votes (r : Round) (amount : Int) : Nat := Attestation.votes r.attestations.values amount

variable {r r' : Round} {amount other : Int} {n : Nat}

theorem size_eq (r : Round) : r.size = r.attestations.values.length := by
  rw [size, Table.values, List.length_map]

theorem count_amounts (r : Round) (amount : Int) : r.amounts.count amount = r.votes amount := by
  rw [amounts, List.count_eq_countP, List.countP_map]
  rfl

theorem votes_eq_zero (unlisted : amount ∉ r.amounts) : r.votes amount = 0 := by
  rw [← count_amounts, List.count_eq_zero_of_not_mem unlisted]

/-- No attestation names two amounts. -/
theorem votes_add_votes_le (r : Round) (apart : amount ≠ other) :
    r.votes amount + r.votes other ≤ r.size := by
  have whole := r.attestations.values.length_eq_countP_add_countP
    fun a : Attestation => decide (a.amount = amount)
  rw [size_eq, whole]
  refine Nat.add_le_add_left (List.countP_mono_left fun a _ named => ?_) _
  simp only [decide_eq_true_eq] at named ⊢
  exact fun also => apart (also.symm.trans named)

theorem majority?_eq_none_iff : r.majority? = none ↔ ∀ amount, 2 * r.votes amount ≤ r.size := by
  simp only [majority?, Option.map_eq_none_iff, List.find?_eq_none, decide_eq_true_eq, not_lt,
    count_amounts]
  constructor
  · intro listed amount
    by_cases mem : amount ∈ r.amounts
    · exact listed amount mem
    · rw [votes_eq_zero mem]
      omega
  · exact fun divided amount _ => divided amount

theorem majority?_eq_some (h : r.majority? = some (amount, n)) :
    r.votes amount = n ∧ r.size < 2 * n := by
  simp only [majority?, Option.map_eq_some_iff, Prod.mk.injEq, count_amounts] at h
  obtain ⟨_, found, rfl, rfl⟩ := h
  have most := List.find?_some found
  exact ⟨rfl, of_decide_eq_true most⟩

/-- The majority is the amount that more than half name, with how many they are. -/
theorem majority?_eq_some_iff :
    r.majority? = some (amount, n) ↔ r.votes amount = n ∧ r.size < 2 * n := by
  refine ⟨majority?_eq_some, ?_⟩
  rintro ⟨rfl, most⟩
  cases found : r.majority? with
  | none =>
    have divided := majority?_eq_none_iff.mp found amount
    omega
  | some p =>
    obtain ⟨other, m⟩ := p
    obtain ⟨rfl, most'⟩ := majority?_eq_some found
    have same : other = amount := by
      by_contra apart
      have both := r.votes_add_votes_le apart
      omega
    rw [same]

/-- It is enough to look at an amount that is named most often, whichever it is. -/
theorem majority?_of_leading (leads : ∀ other, r.votes other ≤ r.votes amount) :
    r.majority? = if r.size < 2 * r.votes amount then some (amount, r.votes amount) else none := by
  split
  · rename_i most
    exact majority?_eq_some_iff.mpr ⟨rfl, most⟩
  · rename_i few
    refine majority?_eq_none_iff.mpr fun other => ?_
    have behind := leads other
    omega

theorem votes_eq_of_perm (h : r.attestations.values.Perm r'.attestations.values) (amount : Int) :
    r.votes amount = r'.votes amount :=
  h.countP_eq _

/-- The order in which the attestations come does not matter. -/
theorem majority?_eq_of_perm (h : r.attestations.values.Perm r'.attestations.values) :
    r.majority? = r'.majority? := by
  have size : r.size = r'.size := by rw [size_eq, size_eq, h.length_eq]
  refine Option.ext fun p => ?_
  rw [majority?_eq_some_iff, majority?_eq_some_iff, votes_eq_of_perm h, size]

end Round

end BitcoinReserve
