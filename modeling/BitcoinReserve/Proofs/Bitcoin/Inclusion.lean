import BitcoinReserve.Proofs.Bitcoin.Confirmation
import BitcoinReserve.Proofs.Bitcoin.Trees

/-!
# Inclusion of a confirmed transaction

A verifier never learns how high the tree of a block is. The branch of the coinbase transaction shows
it: where the strings hashed in the tree and along both branches have different hashes, a branch that
is too short would make a leaf of an inner node, and one that is too long an inner node of a leaf.
-/
namespace BitcoinReserve

namespace Merkle

theorem leads_cons_zero {node sibling root : Bytes} {siblings : List Bytes} :
    Leads node 0 (sibling :: siblings) root ↔
      Leads (hash256 (node ++ sibling)) 0 siblings root := by
  rw [leads_iff, leads_iff, ← climb_left node sibling 0 siblings]

/-- Along the leftmost branch every node but the first is the hash of a string on it. -/
theorem Leads.after {node root : Bytes} {siblings : List Bytes} {count : Nat}
    (leads : Leads node 0 siblings root) (less : count < siblings.length) :
    ∃ q ∈ hashedByClimb node 0 siblings, Leads (hash256 q) 0 (siblings.drop (count + 1)) root ∧
      ∀ p ∈ hashedByClimb (hash256 q) 0 (siblings.drop (count + 1)),
        p ∈ hashedByClimb node 0 siblings := by
  induction siblings generalizing node count with
  | nil => cases less
  | cons sibling siblings ih =>
    have leads := leads_cons_zero.mp leads
    have strings := hashedByClimb_left node sibling 0 siblings
    rw [Nat.mul_zero] at strings
    rw [strings]
    cases count with
    | zero =>
      exact ⟨node ++ sibling, List.mem_cons_self, leads, fun p hp => List.mem_cons_of_mem _ hp⟩
    | succ count =>
      obtain ⟨q, hq, later, sub⟩ := ih leads (Nat.lt_of_succ_lt_succ less)
      exact ⟨q, List.mem_cons_of_mem _ hq, later, fun p hp => List.mem_cons_of_mem _ (sub p hp)⟩

/-- The leftmost branch is as long as the tree is high, if its first node is no hash. -/
theorem Tree.length_eq_height {height : Nat} {level strings siblings : List Bytes}
    {root node : Bytes} (tree : Tree height level root strings)
    (widths : ∀ a ∈ level, a.length = 32) (first : level.head? = some node)
    (sibling_widths : ∀ s ∈ siblings, s.length = 32) (leads : Leads node 0 siblings root)
    (injective : ∀ pair ∈ hashedByClimb node 0 siblings, ∀ q ∈ strings,
      hash256 pair = hash256 q → pair = q)
    (below : ∀ q ∈ strings, hash256 q ≠ node)
    (beside : ∀ q ∈ hashedByClimb node 0 siblings, hash256 q ≠ node) :
    siblings.length = height := by
  rcases Nat.lt_trichotomy siblings.length height with less | same | more
  · exfalso
    obtain ⟨upper, upper_strings, upper_tree, sub, hashes⟩ := tree.lower less
    have upper_widths : ∀ a ∈ upper, a.length = 32 := by
      intro a mem
      obtain ⟨q, -, rfl⟩ := hashes a mem
      exact length_hash256 q
    have width : node.length = 32 := widths node (List.mem_of_mem_head? first)
    obtain ⟨-, mem, -⟩ := upper_tree.stands_of_leads upper_widths width sibling_widths rfl leads
      fun pair hp q hq => injective pair hp q (sub q hq)
    obtain ⟨q, hq, same⟩ := hashes node mem
    exact below q hq same.symm
  · exact same
  · exfalso
    obtain ⟨count, extra⟩ : ∃ count, siblings.length = height + (count + 1) :=
      ⟨siblings.length - height - 1, by omega⟩
    obtain ⟨q, hq, later, sub⟩ := leads.after (by omega : count < siblings.length)
    have length : (siblings.drop (count + 1)).length = height := by
      rw [List.length_drop]
      omega
    obtain ⟨-, -, placed⟩ := tree.stands_of_leads widths (length_hash256 q)
      (fun s hs => sibling_widths s (List.mem_of_mem_drop hs)) length later
      fun pair hp q' hq' => injective pair (sub pair hp) q' hq'
    have positive : 0 < level.length := List.length_pos_of_mem (List.mem_of_mem_head? first)
    have found := placed positive
    rw [← List.head?_eq_getElem?, first] at found
    exact beside q hq (Option.some.inj found).symm

end Merkle

namespace Verifier

/-- The strings hashed in the tree over the leaves and along both branches of the evidence. -/
def hashed (tx : Transaction) (e : Evidence) (leaves : List Bytes) : List Bytes :=
  Merkle.hashed leaves ++
    Merkle.hashedByClimb tx.hash e.txIndex.toNat (pieces 32 e.merkleBranch) ++
    Merkle.hashedByClimb (sha256 e.coinbasePreimage) 0 (pieces 32 e.coinbaseBranch)

/-- A transaction that is accepted with the coinbase of a block is in the block, and at the index if
the block has so many transactions. Both branches are as long as the tree of the block is high. -/
theorem included_of_verify {v : Verifier} {tx : Transaction} {e : Evidence} {factor : Option Int}
    {hash : Bytes} {leaves : List Bytes} (widths : ∀ leaf ∈ leaves, leaf.length = 32)
    (root : Merkle.root? leaves = some (Header.merkleRoot (e.headers.take Header.size)))
    (coinbase : leaves.head? = some (sha256 e.coinbasePreimage))
    (accepted : v.verify tx e factor = .ok hash)
    (injective : ∀ p ∈ hashed tx e leaves, ∀ q ∈ hashed tx e leaves,
      hash256 p = hash256 q → p = q)
    (fresh : ∀ q ∈ hashed tx e leaves, hash256 q ≠ sha256 e.coinbasePreimage) :
    let height := Merkle.height leaves.length
    e.merkleBranch.length = 32 * height ∧ e.coinbaseBranch.length = 32 * height ∧
      ∃ position : Nat, e.txIndex = position ∧ position < 2 ^ height ∧ hash ∈ leaves ∧
        (position < leaves.length → leaves[position]? = some hash) := by
  intro height
  obtain ⟨rfl, first, rest, confirms⟩ := confirms_of_verify accepted
  obtain ⟨position, siblings, index, flat, sibling_widths, leads⟩ := confirms.included
  obtain ⟨others, others_flat, other_widths, others_lead⟩ := confirms.coinbase
  have head : e.headers.take Header.size = first := by
    rw [confirms.headers_eq]
    exact List.take_left' (confirms.header_length first List.mem_cons_self)
  rw [head] at root
  have tree := Merkle.tree_of_root? root
  have strings : hashed tx e leaves = Merkle.hashed leaves ++
      Merkle.hashedByClimb tx.hash position siblings ++
      Merkle.hashedByClimb (sha256 e.coinbasePreimage) 0 others := by
    rw [hashed, flat, others_flat, index, Int.toNat_natCast, pieces_flatten (by decide) sibling_widths,
      pieces_flatten (by decide) other_widths]
  simp only [strings, List.mem_append] at injective fresh
  have others_length : others.length = height :=
    tree.length_eq_height widths coinbase other_widths others_lead
      (fun p hp q hq => injective p (.inr hp) q (.inl (.inl hq)))
      (fun q hq => fresh q (.inl (.inl hq))) fun q hq => fresh q (.inr hq)
  have branches := confirms.branches_length
  rw [flat, others_flat, length_flatten_of_pieces sibling_widths,
    length_flatten_of_pieces other_widths, others_length] at branches
  have length : siblings.length = height := Nat.eq_of_mul_eq_mul_left (by decide) branches
  obtain ⟨bound, mem, placed⟩ := tree.stands_of_leads widths (length_hash256 _) sibling_widths length
    leads fun p hp q hq => injective p (.inl (.inr hp)) q (.inl (.inl hq))
  refine ⟨?_, ?_, position, index, bound, mem, placed⟩
  · rw [flat, length_flatten_of_pieces sibling_widths, length]
  · rw [others_flat, length_flatten_of_pieces other_widths, others_length]

/-- A block of two transactions, of which the second is confirmed by one header. -/
theorem included_of_verify_second :
    let zeros := Bytes.zeros
    let tx : Transaction :=
      ⟨zeros 4, [1] ++ zeros 36 ++ [0] ++ zeros 4, [1] ++ zeros 8 ++ [0], zeros 4⟩
    let leaves := [sha256 [1], tx.hash]
    let root := hash256 (sha256 [1] ++ tx.hash)
    let e : Evidence := ⟨sha256 [1], 1,
      zeros 36 ++ root ++ zeros 4 ++ [0xff, 0xff, 0x7f, 0x20, 1, 0, 0, 0], [1], tx.hash⟩
    let v : Verifier := ⟨⟨1, 1⟩, 1, .regtest, by decide⟩
    v.verify tx e none = .ok tx.hash ∧ e.merkleBranch.length = 32 * Merkle.height 2 ∧
      leaves[1]? = some tx.hash := by
  intro zeros tx leaves root e v
  have accepted : v.verify tx e none = .ok tx.hash := by decide +kernel
  have rooted : Merkle.root? leaves = some (Header.merkleRoot (e.headers.take Header.size)) := by
    decide +kernel
  have widths : ∀ leaf ∈ leaves, leaf.length = 32 := by simp [leaves, Transaction.hash]
  have one : ∀ q ∈ hashed tx e leaves, q = sha256 [1] ++ tx.hash := by decide +kernel
  have injective : ∀ p ∈ hashed tx e leaves, ∀ q ∈ hashed tx e leaves,
      hash256 p = hash256 q → p = q := by
    intro p hp q hq _
    rw [one p hp, one q hq]
  have fresh : ∀ q ∈ hashed tx e leaves, hash256 q ≠ sha256 e.coinbasePreimage := by
    intro q hq
    rw [one q hq]
    decide +kernel
  obtain ⟨length, -, position, index, -, -, placed⟩ :=
    included_of_verify widths rooted rfl accepted injective fresh
  obtain rfl : position = 1 := by
    simp only [e] at index
    omega
  exact ⟨accepted, length, placed (by decide)⟩

end Verifier

end BitcoinReserve
