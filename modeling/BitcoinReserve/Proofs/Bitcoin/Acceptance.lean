import BitcoinReserve.Proofs.Bitcoin.Trees

/-!
# Accepted branches

The branch that is built for a leaf is accepted for it, also where a level repeats its last node.
Conversely a branch that is as long as the tree is high is accepted only for a leaf of the tree.
-/
namespace BitcoinReserve.Merkle

/-- A level on which every node has a sibling: one of odd length repeats its last node. -/
def padded : List Bytes → List Bytes
  | a :: b :: rest => a :: b :: padded rest
  | [a] => [a, a]
  | [] => []

theorem padded_eq (level : List Bytes) :
    (if level.length % 2 = 1 then level ++ level.getLast?.toList else level) = padded level := by
  fun_induction padded level with
  | case1 a b rest ih =>
    cases rest with
    | nil => simp [padded]
    | cons c rest =>
      rw [← ih]
      have parity : (a :: b :: c :: rest).length % 2 = (c :: rest).length % 2 := by
        simp only [List.length_cons]
        omega
      rw [parity]
      split
      · rfl
      · rfl
  | case2 a => rfl
  | case3 => rfl

theorem sibling?_eq (level : List Bytes) (position : Nat) :
    sibling? level position = (padded level)[position ^^^ 1]? := by
  rw [← padded_eq]
  rfl

theorem length_padded (level : List Bytes) :
    (padded level).length = 2 * ((level.length + 1) / 2) := by
  fun_induction padded level with
  | case1 a b rest ih => simp only [List.length_cons, ih]; omega
  | case2 a => simp
  | case3 => rfl

theorem mem_of_mem_padded {level : List Bytes} {node : Bytes} (h : node ∈ padded level) :
    node ∈ level := by
  fun_induction padded level with
  | case1 a b rest ih =>
    simp only [List.mem_cons] at h ⊢
    exact h.imp_right fun h => h.imp_right ih
  | case2 a => simpa using h
  | case3 => exact h

theorem padded_getElem? {level : List Bytes} {position : Nat} {node : Bytes}
    (found : level[position]? = some node) : (padded level)[position]? = some node := by
  rw [← padded_eq]
  split
  · have inside : position < level.length := (List.getElem?_eq_some_iff.mp found).1
    rw [List.getElem?_append_left inside, found]
  · exact found

/-- The pair in a place joins the two nodes below it, the second of which may be repeated. -/
theorem pairs_getElem?_of_padded {level : List Bytes} {place : Nat} {a b : Bytes}
    (left : (padded level)[2 * place]? = some a)
    (right : (padded level)[2 * place + 1]? = some b) : (pairs level)[place]? = some (a ++ b) := by
  fun_induction pairs level generalizing place with
  | case1 c d rest ih =>
    cases place with
    | zero =>
      cases left
      cases right
      rfl
    | succ place => exact ih left right
  | case2 c =>
    cases place with
    | zero =>
      cases left
      cases right
      rfl
    | succ place => cases left
  | case3 => cases left

theorem parents_getElem?_of_padded {level : List Bytes} {place : Nat} {a b : Bytes}
    (left : (padded level)[2 * place]? = some a)
    (right : (padded level)[2 * place + 1]? = some b) :
    (parents level)[place]? = some (hash256 (a ++ b)) := by
  rw [parents_eq_map, List.getElem?_map, pairs_getElem?_of_padded left right, Option.map_some]

/-- A node in an even place has a sibling behind it. -/
theorem exists_sibling_left {level : List Bytes} {place : Nat} {node : Bytes}
    (found : level[2 * place]? = some node) :
    ∃ sibling ∈ level, sibling? level (2 * place) = some sibling ∧
      (parents level)[place]? = some (hash256 (node ++ sibling)) := by
  have inside : 2 * place < level.length := (List.getElem?_eq_some_iff.mp found).1
  have room : 2 * place + 1 < (padded level).length := by
    rw [length_padded]
    omega
  have beside := List.getElem?_eq_getElem room
  have flip : 2 * place ^^^ 1 = 2 * place + 1 := Nat.xor_one_of_even (even_two_mul place)
  refine ⟨(padded level)[2 * place + 1], mem_of_mem_padded (List.getElem_mem room), ?_, ?_⟩
  · rw [sibling?_eq, flip, beside]
  · exact parents_getElem?_of_padded (padded_getElem? found) beside

/-- A node in an odd place has a sibling before it. -/
theorem exists_sibling_right {level : List Bytes} {place : Nat} {node : Bytes}
    (found : level[2 * place + 1]? = some node) :
    ∃ sibling ∈ level, sibling? level (2 * place + 1) = some sibling ∧
      (parents level)[place]? = some (hash256 (sibling ++ node)) := by
  have inside : 2 * place + 1 < level.length := (List.getElem?_eq_some_iff.mp found).1
  have beside := List.getElem?_eq_getElem (Nat.lt_of_succ_lt inside)
  have flip : (2 * place + 1) ^^^ 1 = 2 * place := Nat.xor_one_of_odd (odd_two_mul_add_one place)
  refine ⟨level[2 * place], List.getElem_mem _, ?_, ?_⟩
  · rw [sibling?_eq, flip, padded_getElem? beside]
  · exact parents_getElem?_of_padded (padded_getElem? beside) (padded_getElem? found)

/-- From every node of a level siblings are collected that lead to the root, one for each level
above. -/
theorem Tree.exists_collect {height fuel position : Nat} {level strings : List Bytes}
    {root node : Bytes} (tree : Tree height level root strings)
    (widths : ∀ a ∈ level, a.length = 32) (enough : height ≤ fuel)
    (found : level[position]? = some node) :
    ∃ siblings, collect fuel level position = some siblings ∧ siblings.length = height ∧
      (∀ s ∈ siblings, s.length = 32) ∧ Leads node position siblings root := by
  induction tree generalizing fuel position node with
  | root root =>
    obtain ⟨inside, rfl⟩ := List.getElem?_eq_some_iff.mp found
    obtain rfl : position = 0 := by simpa using inside
    have topmost : collect fuel [root] 0 = some [] := by
      cases fuel with
      | zero => rfl
      | succ fuel => rfl
    exact ⟨[], topmost, rfl, fun s hs => absurd hs List.not_mem_nil, .root root⟩
  | @level height level root strings many above ih =>
    obtain ⟨fuel, rfl⟩ : ∃ below, fuel = below + 1 := ⟨fuel - 1, by omega⟩
    have open_level : ¬ level.length ≤ 1 := by omega
    have climbs {place : Nat} {parent : Bytes} (found : (parents level)[place]? = some parent) :=
      ih (fun a => width_of_mem_parents) (Nat.le_of_succ_le_succ enough) found
    obtain ⟨place, rfl | rfl⟩ : ∃ place, position = 2 * place ∨ position = 2 * place + 1 :=
      ⟨position / 2, by omega⟩
    · obtain ⟨sibling, mem, beside, parent⟩ := exists_sibling_left found
      obtain ⟨siblings, collected, length, others, leads⟩ := climbs parent
      have half : 2 * place / 2 = place := by omega
      refine ⟨sibling :: siblings, ?_, ?_, ?_, .left leads⟩
      · rw [collect, if_neg open_level, beside, half, collected]
        rfl
      · rw [List.length_cons, length]
      · exact List.forall_mem_cons.mpr ⟨widths sibling mem, others⟩
    · obtain ⟨sibling, mem, beside, parent⟩ := exists_sibling_right found
      obtain ⟨siblings, collected, length, others, leads⟩ := climbs parent
      have half : (2 * place + 1) / 2 = place := by omega
      refine ⟨sibling :: siblings, ?_, ?_, ?_, .right leads⟩
      · rw [collect, if_neg open_level, beside, half, collected]
        rfl
      · rw [List.length_cons, length]
      · exact List.forall_mem_cons.mpr ⟨widths sibling mem, others⟩

theorem exists_climbToRoot {fuel : Nat} {level : List Bytes} (nonempty : level ≠ [])
    (enough : level.length ≤ fuel + 1) : ∃ root, climbToRoot fuel level = some root := by
  fun_induction climbToRoot fuel level with
  | case1 => exact absurd rfl nonempty
  | case2 fuel root => exact ⟨root, rfl⟩
  | case3 level _ one =>
    have positive : 0 < level.length := List.length_pos_iff.mpr nonempty
    obtain ⟨node, rfl⟩ := List.length_eq_one_iff.mp (Nat.le_antisymm enough positive)
    exact absurd rfl (one node)
  | case4 fuel level _ one ih =>
    have length := length_parents level
    have positive : 0 < level.length := List.length_pos_iff.mpr nonempty
    refine ih ?_ (by omega)
    rw [← List.length_pos_iff]
    omega

/-- There is a tree over every list of leaves but the empty one. -/
theorem exists_tree {leaves : List Bytes} (nonempty : leaves ≠ []) :
    ∃ root, root? leaves = some root ∧
      Tree (height leaves.length) leaves root (hashed leaves) := by
  obtain ⟨root, rooted⟩ := exists_climbToRoot nonempty (Nat.le_succ leaves.length)
  exact ⟨root, rooted, tree_of_root? rooted⟩

theorem height_le (count : Nat) : height count ≤ count :=
  Nat.clog_le_of_le_pow (Nat.le_of_lt Nat.lt_two_pow_self)

/-- Every leaf has a branch, as long as the tree is high, that leads from the leaf to the root. -/
theorem exists_branch_proves {leaves : List Bytes} (nonempty : leaves ≠ [])
    (widths : ∀ leaf ∈ leaves, leaf.length = 32) :
    ∃ root, root? leaves = some root ∧
      Tree (height leaves.length) leaves root (hashed leaves) ∧
      ∀ (index : Nat) (inside : index < leaves.length), ∃ branch,
        branch? leaves index = some branch ∧
        branch.length = 32 * height leaves.length ∧
        proves leaves[index] root branch index = true := by
  obtain ⟨root, rooted, tree⟩ := exists_tree nonempty
  refine ⟨root, rooted, tree, fun index inside => ?_⟩
  obtain ⟨siblings, collected, length, sibling_widths, leads⟩ :=
    tree.exists_collect widths (height_le leaves.length) (List.getElem?_eq_getElem inside)
  refine ⟨siblings.flatten, ?_, ?_, ?_⟩
  · rw [branch?, collected, Option.map_some]
  · rw [length_flatten_of_pieces sibling_widths, length]
  · exact proves_iff.mpr ⟨index, siblings, rfl, rfl, sibling_widths, leads⟩

/-- Three leaves, the last of which is its own sibling. -/
theorem exists_branch_proves_three :
    let leaves : List Bytes := [List.replicate 32 1, List.replicate 32 2, List.replicate 32 3]
    (∀ leaf ∈ leaves, leaf.length = 32) ∧ ∃ root, root? leaves = some root ∧
      ∃ branch, branch? leaves 2 = some branch ∧ branch.length = 64 ∧
        proves (List.replicate 32 3) root branch 2 = true := by
  intro leaves
  have widths : ∀ leaf ∈ leaves, leaf.length = 32 := by decide
  have two : height leaves.length = 2 := by decide +kernel
  obtain ⟨root, rooted, -, branches⟩ := exists_branch_proves (List.cons_ne_nil _ _) widths
  obtain ⟨branch, built, length, proven⟩ := branches 2 (by decide)
  rw [two] at length
  exact ⟨widths, root, rooted, branch, built, length, proven⟩

/-- One step up: the node and its sibling make a pair, and the branch goes on from its hash. -/
theorem Leads.up {node sibling root : Bytes} {position : Nat} {siblings : List Bytes}
    (leads : Leads node position (sibling :: siblings) root) :
    ∃ pair place, pair.length = node.length + sibling.length ∧
      Leads (hash256 pair) place siblings root ∧
      hashedByClimb node position (sibling :: siblings) =
        pair :: hashedByClimb (hash256 pair) place siblings := by
  cases leads with
  | @left _ _ _ place _ above =>
    refine ⟨node ++ sibling, place, List.length_append, above, ?_⟩
    exact hashedByClimb_left node sibling place siblings
  | @right _ _ _ place _ above =>
    refine ⟨sibling ++ node, place, ?_, above, ?_⟩
    · rw [List.length_append, Nat.add_comm]
    · exact hashedByClimb_right node sibling place siblings

theorem length_of_mem_pairs {level : List Bytes} {pair : Bytes}
    (widths : ∀ a ∈ level, a.length = 32) (h : pair ∈ pairs level) : pair.length = 64 := by
  obtain ⟨a, ha, b, hb, rfl⟩ := mem_of_mem_pairs h
  rw [List.length_append, widths a ha, widths b hb]

/-- Where a branch is as long as the tree is high, its first node has the width of a leaf: together
with its sibling it is a pair of the level. -/
theorem Tree.width_of_leads {height position : Nat} {level strings siblings : List Bytes}
    {root node : Bytes} (tree : Tree height level root strings)
    (widths : ∀ a ∈ level, a.length = 32) (sibling_widths : ∀ s ∈ siblings, s.length = 32)
    (length : siblings.length = height) (leads : Leads node position siblings root)
    (injective : ∀ pair ∈ hashedByClimb node position siblings, ∀ q ∈ strings,
      hash256 pair = hash256 q → pair = q) : node.length = 32 := by
  cases tree with
  | root =>
    obtain rfl := List.length_eq_zero_iff.mp length
    cases leads with
    | root => exact widths _ (List.mem_singleton_self _)
  | @level height _ _ strings many above =>
    obtain ⟨sibling, siblings, rfl⟩ := List.exists_cons_of_length_eq_add_one length
    obtain ⟨pair, place, pair_length, leads, hashes⟩ := leads.up
    rw [hashes, List.forall_mem_cons] at injective
    rw [List.forall_mem_cons] at sibling_widths
    have parent : hash256 pair ∈ parents level :=
      (above.stands_of_leads (fun a => width_of_mem_parents) (length_hash256 pair)
        sibling_widths.2 (Nat.succ.inj length) leads
        fun p hp q hq => injective.2 p hp q (List.mem_append_right _ hq)).2.1
    rw [parents_eq_map] at parent
    obtain ⟨q, hq, same⟩ := List.mem_map.mp parent
    obtain rfl := injective.1 q (List.mem_append_left _ hq) same.symm
    have total := length_of_mem_pairs widths hq
    omega

/-- A branch that is as long as the tree is high and leads to its root starts at a leaf, and at the
leaf at the index if there are so many. -/
theorem mem_of_proves {leaves : List Bytes} (nonempty : leaves ≠ [])
    (widths : ∀ leaf ∈ leaves, leaf.length = 32) :
    ∃ root, root? leaves = some root ∧
      Tree (height leaves.length) leaves root (hashed leaves) ∧
      ∀ (leaf branch : Bytes) (index : Int), branch.length = 32 * height leaves.length →
        proves leaf root branch index = true →
        (let strings := hashed leaves ++ hashedByClimb leaf index.toNat (pieces 32 branch)
          ∀ p ∈ strings, ∀ q ∈ strings, hash256 p = hash256 q → p = q) →
        ∃ position : Nat, index = position ∧ position < 2 ^ height leaves.length ∧ leaf ∈ leaves ∧
          (position < leaves.length → leaves[position]? = some leaf) := by
  obtain ⟨root, rooted, tree⟩ := exists_tree nonempty
  refine ⟨root, rooted, tree, fun leaf branch index length proven injective => ?_⟩
  obtain ⟨position, siblings, rfl, rfl, sibling_widths, leads⟩ := proves_iff.mp proven
  rw [length_flatten_of_pieces sibling_widths] at length
  have levels : siblings.length = height leaves.length :=
    Nat.eq_of_mul_eq_mul_left (by decide) length
  rw [Int.toNat_natCast, pieces_flatten (by decide) sibling_widths] at injective
  have separate : ∀ p ∈ hashedByClimb leaf position siblings, ∀ q ∈ hashed leaves,
      hash256 p = hash256 q → p = q := fun p hp q hq =>
    injective p (List.mem_append_right _ hp) q (List.mem_append_left _ hq)
  have width := tree.width_of_leads widths sibling_widths levels leads separate
  obtain ⟨bound, mem, placed⟩ :=
    tree.stands_of_leads widths width sibling_widths levels leads separate
  exact ⟨position, rfl, bound, mem, placed⟩

/-- Over three leaves the last is also accepted in the fourth place, where it is repeated. -/
theorem mem_of_proves_three :
    let leaves : List Bytes := [List.replicate 32 1, List.replicate 32 2, List.replicate 32 3]
    let leaf : Bytes := List.replicate 32 3
    ∃ root branch, root? leaves = some root ∧ branch.length = 32 * height leaves.length ∧
      proves leaf root branch 3 = true ∧ leaf ∈ leaves ∧ 3 < 2 ^ height leaves.length := by
  intro leaves leaf
  let branch : Bytes := leaf ++ hash256 (List.replicate 32 1 ++ List.replicate 32 2)
  have widths : ∀ leaf ∈ leaves, leaf.length = 32 := by decide
  have length : branch.length = 32 * height leaves.length := by decide +kernel
  obtain ⟨root, rooted, -, accepts⟩ := mem_of_proves (List.cons_ne_nil _ _) widths
  have proven : proves leaf root branch 3 = true := by
    have all : (root? leaves).all (proves leaf · branch 3) = true := by decide +kernel
    rwa [rooted, Option.all_some] at all
  have separate : ∀ p ∈ hashed leaves ++ hashedByClimb leaf 3 (pieces 32 branch),
      ∀ q ∈ hashed leaves ++ hashedByClimb leaf 3 (pieces 32 branch),
        hash256 p = hash256 q → p = q := by
    decide +kernel
  obtain ⟨position, index, bound, mem, -⟩ := accepts leaf branch 3 length proven separate
  obtain rfl : position = 3 := by omega
  exact ⟨root, branch, rooted, length, proven, mem, bound⟩

end BitcoinReserve.Merkle
