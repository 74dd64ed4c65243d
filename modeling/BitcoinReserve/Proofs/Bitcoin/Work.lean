import BitcoinReserve.Proofs.Bitcoin.Confirmation

/-!
# The work behind accepted evidence

A chain has to show the difficulty of its first header as often as the factor says. A first header
without any difficulty, whose target lies beyond the limit of the network, is met with where the
relay knows no previous difficulty, and then the factor asks for nothing.
-/
namespace BitcoinReserve

namespace Header

theorem difficulty_nonneg (network : Network) (header : Bytes) : 0 ≤ difficulty network header := by
  unfold difficulty difficultyOf
  split
  · exact Int.le_refl 0
  · exact Int.ediv_nonneg (Int.natCast_nonneg _) (Int.natCast_nonneg _)

/-- The headers without difficulty are those whose target is nothing or lies beyond the limit. -/
theorem difficulty_eq_zero_iff {network : Network} {header : Bytes} :
    difficulty network header = 0 ↔ target header = 0 ∨ network.powLimit < target header := by
  unfold difficulty difficultyOf
  by_cases nothing : target header = 0
  · simp [nothing]
  · have positive : ¬ (target header : Int) ≤ 0 := by omega
    have quotient : (network.powLimit : Int) / target header = 0 ↔
        network.powLimit < target header := by
      rw [← Int.natCast_ediv, Int.natCast_eq_zero, Nat.div_eq_zero_iff]
      exact or_iff_right nothing
    rw [if_neg positive, quotient]
    exact (or_iff_right nothing).symm

theorem sum_difficulty_nonneg (network : Network) (headers : List Bytes) :
    0 ≤ (headers.map (difficulty network)).sum := by
  apply List.sum_nonneg
  intro d mem
  obtain ⟨header, -, rfl⟩ := List.mem_map.mp mem
  exact difficulty_nonneg network header

end Header

namespace Verifier

variable {v : Verifier} {tx : Transaction} {e : Evidence} {factor : Int} {first : Bytes}
  {rest : List Bytes}

theorem Confirms.chain_eq (confirms : v.Confirms tx e factor first rest) :
    v.chain e.headers = .ok ((first :: rest).map (Header.difficulty v.network)).sum := by
  rw [confirms.headers_eq]
  exact (chain_eq_ok_iff confirms.header_length).mpr ⟨confirms.linked, confirms.worked, rfl⟩

theorem Confirms.head_eq (confirms : v.Confirms tx e factor first rest) :
    e.headers.take Header.size = first := by
  rw [confirms.headers_eq]
  exact List.take_left' (confirms.header_length first List.mem_cons_self)

/-- A first header with a difficulty makes the factor count. -/
theorem Confirms.factor_le (confirms : v.Confirms tx e factor first rest)
    (worth : Header.difficulty v.network first ≠ 0) :
    factor ≤ ((first :: rest).map (Header.difficulty v.network)).sum := by
  have nonneg := Header.difficulty_nonneg v.network first
  have one_le : 1 ≤ Header.difficulty v.network first := by omega
  calc factor = 1 * factor := (one_mul factor).symm
    _ ≤ Header.difficulty v.network first * factor :=
      Int.mul_le_mul_of_nonneg_right one_le (by have := confirms.factor_pos; omega)
    _ ≤ _ := confirms.difficulty_mul_le

/-- A first header without a difficulty is confirmed at one factor as at another. -/
theorem Confirms.at_factor (confirms : v.Confirms tx e factor first rest)
    (worthless : Header.difficulty v.network first = 0) {other : Int} (positive : 1 ≤ other) :
    v.Confirms tx e other first rest := by
  refine confirms.rescale positive ?_
  rw [worthless, zero_mul]
  exact Header.sum_difficulty_nonneg v.network (first :: rest)

/-- Accepted headers show at least as much work as the factor says if their first one has a
difficulty. If it has none, the same evidence is accepted at every factor. -/
theorem work_of_verify (v : Verifier) (tx : Transaction) (e : Evidence) (factor : Option Int)
    (hash : Bytes) (current : 0 < v.relay.current) (previous : 0 ≤ v.relay.previous)
    (accepted : v.verify tx e factor = .ok hash) :
    let first := e.headers.take Header.size
    ∃ work, v.chain e.headers = .ok work ∧ 0 ≤ work ∧
      (Header.difficulty v.network first ≠ 0 → factor.getD v.factor ≤ work ∧ 0 < work) ∧
      (Header.difficulty v.network first = 0 → v.relay.previous = 0 ∧
        (Header.target first = 0 ∨ v.network.powLimit < Header.target first) ∧
        ∀ other, 1 ≤ other → v.verify tx e (some other) = .ok hash) := by
  intro first
  obtain ⟨same, header, rest, confirms⟩ := confirms_of_verify accepted
  have head : first = header := confirms.head_eq
  rw [head]
  refine ⟨_, confirms.chain_eq, Header.sum_difficulty_nonneg v.network _, ?_, ?_⟩
  · intro worth
    have enough := confirms.factor_le worth
    have positive := confirms.factor_pos
    exact ⟨enough, by omega⟩
  · intro worthless
    have known := confirms.difficulty_relayed
    rw [worthless] at known
    refine ⟨by omega, Header.difficulty_eq_zero_iff.mp worthless, fun other positive => ?_⟩
    have again : v.Confirms tx e ((some other).getD v.factor) header rest :=
      confirms.at_factor worthless positive
    rw [same]
    exact again.verify_eq

/-- A transaction that pays nobody anything. -/
def idleTransaction : Transaction :=
  ⟨Bytes.zeros 4, [1] ++ Bytes.zeros 36 ++ [0] ++ Bytes.zeros 4, [1] ++ Bytes.zeros 9, Bytes.zeros 4⟩

/-- Evidence for the transaction as the only one of its block, whose header ends as given. -/
def lonelyEvidence (ending : Bytes) : Evidence where
  merkleBranch := []
  txIndex := 0
  headers := Bytes.zeros 36 ++ idleTransaction.hash ++ Bytes.zeros 4 ++ ending
  coinbasePreimage := sha256 idleTransaction.serialize
  coinbaseBranch := []

theorem work_of_verify_single :
    let v : Verifier := ⟨⟨1, 0⟩, 1, .regtest, by decide⟩
    let e := lonelyEvidence [0xff, 0xff, 0x7f, 0x20, 1, 0, 0, 0]
    0 < v.relay.current ∧ 0 ≤ v.relay.previous ∧
      v.verify idleTransaction e none = .ok idleTransaction.hash ∧
      ∃ work, v.chain e.headers = .ok work ∧ 1 ≤ work := by
  intro v e
  have accepted : v.verify idleTransaction e none = .ok idleTransaction.hash := by decide +kernel
  have worth : Header.difficulty v.network (e.headers.take Header.size) ≠ 0 := by decide +kernel
  obtain ⟨work, chain, -, enough, -⟩ :=
    work_of_verify v idleTransaction e none idleTransaction.hash (by decide) (by decide) accepted
  exact ⟨by decide, by decide, accepted, work, chain, (enough worth).1⟩

/-- Six confirmations are found in one header that shows no work. -/
theorem verify_without_work :
    let v : Verifier := ⟨⟨5, 0⟩, 6, .mainnet, by decide⟩
    let e := lonelyEvidence [0xff, 0xff, 0xff, 0x20, 0, 0, 0, 0]
    v.verify idleTransaction e none = .ok idleTransaction.hash ∧ v.chain e.headers = .ok 0 := by
  decide +kernel

end Verifier

end BitcoinReserve
