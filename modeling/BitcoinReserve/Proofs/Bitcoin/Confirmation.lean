import BitcoinReserve.Proofs.Bitcoin.Branches
import BitcoinReserve.Proofs.Bitcoin.Vectors
import BitcoinReserve.Proofs.Outcome

/-!
# What a verifier accepts

Evidence is accepted when it has every property that a confirmation needs, and in no other case.
-/
namespace BitcoinReserve

namespace Header

/-- The next header names this one as its predecessor. -/
def Precedes (header next : Bytes) : Prop := previousHash next = hash256 header

/-- A header without a target has no difficulty, as if it were divided by nothing. -/
theorem difficulty_eq (network : Network) :
    difficulty network = fun header => (network.powLimit : Int) / target header := by
  funext header
  unfold difficulty difficultyOf
  split
  · rename_i nothing
    have zero : (target header : Int) = 0 := le_antisymm nothing (Int.natCast_nonneg _)
    rw [zero, Int.ediv_zero]
  · rfl

end Header

section

variable {network : Network} {position : Nat} {previous : Option Bytes} {header : Bytes}
  {headers rest : List Bytes} {work : Int}

/-- A header joins those above it where it names its predecessor and meets its own target. -/
theorem chainWork_cons_eq_ok_iff :
    chainWork network position previous (header :: rest) = .ok work ↔
      (∀ hash ∈ previous, Header.previousHash header = hash) ∧
        Bytes.toNatLE (hash256 header) ≤ Header.target header ∧
        ∃ above, chainWork network (position + 1) (some (hash256 header)) rest = .ok above ∧
          Header.difficulty network header + above = work := by
  have linked : ¬ previous.any (· ≠ Header.previousHash header) = true ↔
      ∀ hash ∈ previous, Header.previousHash header = hash := by
    cases previous with
    | none => simp
    | some hash =>
      simp only [Option.any_some, ne_eq, decide_eq_true_eq, Decidable.not_not, Option.mem_def,
        Option.some.injEq, forall_eq']
      exact eq_comm
  have target : ¬ (!Header.meetsTarget header) = true ↔
      Bytes.toNatLE (hash256 header) ≤ Header.target header := by
    simp only [Header.meetsTarget, Bool.not_eq_true, Bool.not_eq_false', decide_eq_true_eq]
    exact Iff.rfl
  rw [chainWork, Check.reject_eq_ok_iff, Check.reject_eq_ok_iff, linked, target, Header.hash]
  cases chainWork network (position + 1) (some (hash256 header)) rest with
  | error f => simp
  | ok above => simp

/-- A chain is accepted with the sum of its difficulties. -/
theorem chainWork_eq_ok_iff :
    chainWork network position previous headers = .ok work ↔
      (∀ hash ∈ previous, ∀ header ∈ headers.head?, Header.previousHash header = hash) ∧
        headers.IsChain Header.Precedes ∧
        (∀ header ∈ headers, Bytes.toNatLE (hash256 header) ≤ Header.target header) ∧
        (headers.map (Header.difficulty network)).sum = work := by
  induction headers generalizing position previous work with
  | nil => simp [chainWork]
  | cons header rest ih =>
    rw [chainWork_cons_eq_ok_iff, List.isChain_cons, List.forall_mem_cons, List.map_cons,
      List.sum_cons]
    simp only [ih, List.head?_cons, Option.mem_def, Option.some.injEq, forall_eq']
    constructor
    · rintro ⟨linked, met, above, ⟨next, chain, targets, rfl⟩, total⟩
      exact ⟨linked, ⟨next, chain⟩, ⟨met, targets⟩, total⟩
    · rintro ⟨linked, ⟨next, chain⟩, ⟨met, targets⟩, total⟩
      exact ⟨linked, met, _, ⟨next, chain, targets, rfl⟩, total⟩

end

namespace Verifier

/-- The headers are at least one, of 80 bytes each. -/
theorem headersFault?_eq_none_iff {headers : Bytes} :
    headersFault? headers = none ↔ ∃ first rest,
      headers = (first :: rest).flatten ∧ ∀ header ∈ first :: rest, header.length = 80 := by
  constructor
  · intro h
    unfold headersFault? at h
    split at h
    · cases h
    · rename_i sound
      rw [not_or, not_ne_iff] at sound
      obtain ⟨nonempty, whole⟩ := sound
      obtain ⟨found, rfl, lengths⟩ := exists_pieces whole
      cases found with
      | nil => exact absurd rfl nonempty
      | cons first rest => exact ⟨first, rest, rfl, lengths⟩
  · rintro ⟨first, rest, rfl, lengths⟩
    have length := length_flatten_of_pieces lengths
    rw [List.length_cons] at length
    have whole : (first :: rest).flatten.length % Header.size = 0 := by
      rw [length, Header.size, Nat.mul_mod_right]
    have nonempty : (first :: rest).flatten ≠ [] := by
      intro missing
      rw [missing, List.length_nil] at length
      omega
    exact if_neg fun wrong => wrong.elim nonempty fun broken => broken whole

/-- What is shown of a transaction by evidence whose headers are the given ones. The difficulty of a
header is the quotient of the limit and its target. -/
structure Confirms (v : Verifier) (tx : Transaction) (e : Evidence) (factor : Int)
    (first : Bytes) (rest : List Bytes) : Prop where
  version_length : tx.version.length = 4
  locktime_length : tx.locktime.length = 4
  inputs : ∃ inputs, inputs ≠ [] ∧ EncodesVector InputVector.Writes inputs tx.inputVector
  outputs : ∃ outputs, outputs ≠ [] ∧ EncodesVector OutputVector.Writes outputs tx.outputVector
  branches_length : e.merkleBranch.length = e.coinbaseBranch.length
  headers_eq : e.headers = (first :: rest).flatten
  header_length : ∀ header ∈ first :: rest, header.length = 80
  included : ∃ (position : Nat) (siblings : List Bytes), e.txIndex = position ∧
    e.merkleBranch = siblings.flatten ∧ (∀ s ∈ siblings, s.length = 32) ∧
    Merkle.Leads (hash256 (tx.version ++ tx.inputVector ++ tx.outputVector ++ tx.locktime))
      position siblings (Header.merkleRoot first)
  coinbase : ∃ siblings : List Bytes,
    e.coinbaseBranch = siblings.flatten ∧ (∀ s ∈ siblings, s.length = 32) ∧
    Merkle.Leads (sha256 e.coinbasePreimage) 0 siblings (Header.merkleRoot first)
  factor_pos : 1 ≤ factor
  relayed : (v.network.powLimit : Int) / Header.target first = v.relay.current ∨
    (v.network.powLimit : Int) / Header.target first = v.relay.previous
  linked : (first :: rest).IsChain Header.Precedes
  worked : ∀ header ∈ first :: rest, Bytes.toNatLE (hash256 header) ≤ Header.target header
  work_le : (v.network.powLimit : Int) / Header.target first * factor ≤
    ((first :: rest).map fun header => (v.network.powLimit : Int) / Header.target header).sum

variable {v : Verifier}

theorem chain_eq_ok_iff {first : Bytes} {rest : List Bytes} {work : Int}
    (lengths : ∀ header ∈ first :: rest, header.length = 80) :
    v.chain (first :: rest).flatten = .ok work ↔
      (first :: rest).IsChain Header.Precedes ∧
        (∀ header ∈ first :: rest, Bytes.toNatLE (hash256 header) ≤ Header.target header) ∧
        ((first :: rest).map (Header.difficulty v.network)).sum = work := by
  have sound : headersFault? (first :: rest).flatten = none :=
    headersFault?_eq_none_iff.mpr ⟨first, rest, rfl, lengths⟩
  have split : Header.split (first :: rest).flatten = first :: rest :=
    pieces_flatten (by decide) lengths
  unfold chain
  rw [sound, split]
  simp only [chainWork_eq_ok_iff, Option.not_mem_none, false_implies, implies_true, true_and]

theorem confirmations_eq_ok_iff {first : Bytes} {rest : List Bytes} {factor : Option Int}
    {work : Int} (lengths : ∀ header ∈ first :: rest, header.length = 80) :
    v.confirmations (first :: rest).flatten factor = .ok work ↔
      1 ≤ factor.getD v.factor ∧
        (Header.difficulty v.network first = v.relay.current ∨
          Header.difficulty v.network first = v.relay.previous) ∧
        v.chain (first :: rest).flatten = .ok work ∧
        Header.difficulty v.network first * factor.getD v.factor ≤ work := by
  have head : (first :: rest).flatten.take Header.size = first :=
    List.take_left' (lengths first List.mem_cons_self)
  have relayed : ¬ (Header.difficulty v.network first ≠ v.relay.current ∧
      Header.difficulty v.network first ≠ v.relay.previous) ↔
      (Header.difficulty v.network first = v.relay.current ∨
        Header.difficulty v.network first = v.relay.previous) := by
    rw [not_and_or, not_ne_iff, not_ne_iff]
  simp only [confirmations, head, Check.reject_eq_ok_iff, relayed, Int.not_lt]
  cases v.chain (first :: rest).flatten with
  | error f => simp
  | ok total =>
    simp only [Check.reject_eq_ok_iff, Int.not_lt, Except.ok.injEq]
    constructor
    · rintro ⟨positive, known, enough, rfl⟩
      exact ⟨positive, known, rfl, enough⟩
    · rintro ⟨positive, known, rfl, enough⟩
      exact ⟨positive, known, enough, rfl⟩

/-- The checks of a verification in their order, where the headers are cut. -/
theorem verify_eq_ok_iff_checks {tx : Transaction} {e : Evidence} {factor : Option Int}
    {hash : Bytes} {first : Bytes} {rest : List Bytes}
    (headers : e.headers = (first :: rest).flatten)
    (lengths : ∀ header ∈ first :: rest, header.length = 80) :
    v.verify tx e factor = .ok hash ↔
      (tx.version.length = 4 ∧ tx.locktime.length = 4) ∧
        InputVector.valid tx.inputVector = true ∧ OutputVector.valid tx.outputVector = true ∧
        e.merkleBranch.length = e.coinbaseBranch.length ∧
        Merkle.proves tx.hash (Header.merkleRoot first) e.merkleBranch e.txIndex = true ∧
        Merkle.proves (sha256 e.coinbasePreimage) (Header.merkleRoot first) e.coinbaseBranch 0 =
          true ∧
        (∃ work, v.confirmations e.headers factor = .ok work) ∧ tx.hash = hash := by
  have sound : headersFault? e.headers = none :=
    headersFault?_eq_none_iff.mpr ⟨first, rest, headers, lengths⟩
  have head : e.headers.take Header.size = first := by
    rw [headers]
    exact List.take_left' (lengths first List.mem_cons_self)
  simp only [verify, sound, head, Check.reject_eq_ok_iff, not_or, not_ne_iff, Bool.not_eq_true,
    Bool.not_eq_false']
  cases v.confirmations e.headers factor with
  | error f => simp
  | ok work => simp

/-- What a verifier accepts is confirmed by the evidence, and is answered with its hash. -/
theorem confirms_of_verify {tx : Transaction} {e : Evidence} {factor : Option Int} {hash : Bytes}
    (accepted : v.verify tx e factor = .ok hash) :
    hash = tx.hash ∧ ∃ first rest, v.Confirms tx e (factor.getD v.factor) first rest := by
  have sound : headersFault? e.headers = none := by
    simp only [verify, Check.reject_eq_ok_iff] at accepted
    obtain ⟨-, -, -, -, accepted⟩ := accepted
    split at accepted
    · cases accepted
    · assumption
  obtain ⟨first, rest, headers, lengths⟩ := headersFault?_eq_none_iff.mp sound
  obtain ⟨⟨version, locktime⟩, inputs, outputs, branches, branch, coinbase, ⟨work, confirmed⟩,
    same⟩ := (verify_eq_ok_iff_checks headers lengths).mp accepted
  rw [headers] at confirmed
  obtain ⟨positive, relayed, chain, enough⟩ := (confirmations_eq_ok_iff lengths).mp confirmed
  obtain ⟨linked, worked, rfl⟩ := (chain_eq_ok_iff lengths).mp chain
  obtain ⟨position, siblings, index, flat, widths, leads⟩ := Merkle.proves_iff.mp branch
  obtain ⟨start, others, zero, flat', widths', leads'⟩ := Merkle.proves_iff.mp coinbase
  obtain rfl : start = 0 := by omega
  refine ⟨same.symm, first, rest, ?_⟩
  exact {
    version_length := version
    locktime_length := locktime
    inputs := InputVector.valid_iff.mp inputs
    outputs := OutputVector.valid_iff.mp outputs
    branches_length := branches
    headers_eq := headers
    header_length := lengths
    included := ⟨position, siblings, index, flat, widths, leads⟩
    coinbase := ⟨others, flat', widths', leads'⟩
    factor_pos := positive
    relayed := by simpa only [Header.difficulty_eq] using relayed
    linked := linked
    worked := worked
    work_le := by simpa only [Header.difficulty_eq] using enough }

theorem exists_outputs_of_verify {tx : Transaction} {e : Evidence} {factor : Option Int}
    {hash : Bytes} (accepted : v.verify tx e factor = .ok hash) :
    ∃ outputs, OutputVector.decode tx.outputVector = .ok outputs := by
  obtain ⟨-, first, rest, confirms⟩ := confirms_of_verify accepted
  obtain ⟨outputs, -, written⟩ := confirms.outputs
  exact ⟨outputs, OutputVector.decode_eq_ok_iff.mpr written⟩

section

variable {tx : Transaction} {e : Evidence} {first : Bytes} {rest : List Bytes}

theorem Confirms.difficulty_relayed {factor : Int} (confirms : v.Confirms tx e factor first rest) :
    Header.difficulty v.network first = v.relay.current ∨
      Header.difficulty v.network first = v.relay.previous := by
  simpa only [Header.difficulty_eq] using confirms.relayed

theorem Confirms.difficulty_mul_le {factor : Int} (confirms : v.Confirms tx e factor first rest) :
    Header.difficulty v.network first * factor ≤
      ((first :: rest).map (Header.difficulty v.network)).sum := by
  simpa only [Header.difficulty_eq] using confirms.work_le

/-- What is confirmed at one factor is confirmed at another for which the work is enough. -/
theorem Confirms.rescale {factor other : Int} (confirms : v.Confirms tx e factor first rest)
    (positive : 1 ≤ other) (enough : Header.difficulty v.network first * other ≤
      ((first :: rest).map (Header.difficulty v.network)).sum) :
    v.Confirms tx e other first rest :=
  { confirms with
    factor_pos := positive
    work_le := by simpa only [Header.difficulty_eq] using enough }

/-- What the evidence confirms is accepted. -/
theorem Confirms.verify_eq {factor : Option Int}
    (confirms : v.Confirms tx e (factor.getD v.factor) first rest) :
    v.verify tx e factor = .ok tx.hash := by
  have lengths := confirms.header_length
  obtain ⟨siblings, coinbase⟩ := confirms.coinbase
  have chain : v.chain (first :: rest).flatten = .ok _ :=
    (chain_eq_ok_iff lengths).mpr ⟨confirms.linked, confirms.worked, rfl⟩
  have confirmed := (confirmations_eq_ok_iff lengths).mpr
    ⟨confirms.factor_pos, confirms.difficulty_relayed, chain, confirms.difficulty_mul_le⟩
  rw [← confirms.headers_eq] at confirmed
  refine (verify_eq_ok_iff_checks confirms.headers_eq lengths).mpr
    ⟨⟨confirms.version_length, confirms.locktime_length⟩, ?_, ?_, confirms.branches_length, ?_, ?_,
      ⟨_, confirmed⟩, rfl⟩
  · exact InputVector.valid_iff.mpr confirms.inputs
  · exact OutputVector.valid_iff.mpr confirms.outputs
  · exact Merkle.proves_iff.mpr confirms.included
  · exact Merkle.proves_iff.mpr ⟨0, siblings, rfl, coinbase⟩

end

/-- A verifier accepts a transaction exactly when the evidence confirms it, and answers with the
hash of the transaction. -/
theorem verify_eq_ok_iff (v : Verifier) (tx : Transaction) (e : Evidence) (factor : Option Int)
    (hash : Bytes) :
    v.verify tx e factor = .ok hash ↔
      hash = hash256 (tx.version ++ tx.inputVector ++ tx.outputVector ++ tx.locktime) ∧
        ∃ first rest, v.Confirms tx e (factor.getD v.factor) first rest := by
  constructor
  · exact confirms_of_verify
  · rintro ⟨rfl, first, rest, confirms⟩
    exact confirms.verify_eq

end Verifier

end BitcoinReserve
