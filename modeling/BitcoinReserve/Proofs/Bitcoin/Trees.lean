import BitcoinReserve.Proofs.Bitcoin.Branches
import Mathlib

/-!
# Trees over leaves

A tree with its height and the strings that are hashed for its root, the strings that are hashed on
the way along a branch, and what a branch as long as the tree is high shows when no two of these
strings have one hash.
-/
namespace BitcoinReserve.Merkle

/-- The strings that are hashed for the level above. -/
def pairs : List Bytes → List Bytes
  | a :: b :: rest => (a ++ b) :: pairs rest
  | [a] => [a ++ a]
  | [] => []

theorem parents_eq_map (level : List Bytes) : parents level = (pairs level).map hash256 := by
  fun_induction pairs level with
  | case1 a b rest ih => rw [parents, List.map_cons, ih]
  | case2 a => rfl
  | case3 => rfl

theorem mem_of_mem_pairs {level : List Bytes} {pair : Bytes} (h : pair ∈ pairs level) :
    ∃ a ∈ level, ∃ b ∈ level, pair = a ++ b := by
  fun_induction pairs level with
  | case1 a b rest ih =>
    rcases List.mem_cons.mp h with rfl | h
    · exact ⟨a, List.mem_cons_self, b, List.mem_cons_of_mem a List.mem_cons_self, rfl⟩
    · obtain ⟨c, hc, d, hd, rfl⟩ := ih h
      exact ⟨c, List.mem_cons_of_mem a (List.mem_cons_of_mem b hc), d,
        List.mem_cons_of_mem a (List.mem_cons_of_mem b hd), rfl⟩
  | case2 a =>
    obtain rfl := List.mem_singleton.mp h
    exact ⟨a, List.mem_cons_self, a, List.mem_cons_self, rfl⟩
  | case3 => cases h

/-- The pair in a place joins the nodes in the two places below, as far as there are two. -/
theorem pairs_getElem? {level : List Bytes} {place : Nat} {pair : Bytes}
    (h : (pairs level)[place]? = some pair) :
    ∃ a b, pair = a ++ b ∧ level[2 * place]? = some a ∧
      ∀ c, level[2 * place + 1]? = some c → b = c := by
  fun_induction pairs level generalizing place with
  | case1 a b rest ih =>
    cases place with
    | zero =>
      cases h
      refine ⟨a, b, rfl, rfl, ?_⟩
      rintro c ⟨⟩
      rfl
    | succ place =>
      rw [List.getElem?_cons_succ] at h
      exact ih h
  | case2 a =>
    cases place with
    | zero =>
      cases h
      refine ⟨a, a, rfl, rfl, ?_⟩
      rintro c ⟨⟩
    | succ place => cases h
  | case3 => cases h

/-- A level with a tree above it of some height, its root, and the strings hashed for it. -/
inductive Tree : Nat → List Bytes → Bytes → List Bytes → Prop
  | root (root : Bytes) : Tree 0 [root] root []
  | level {height : Nat} {level : List Bytes} {root : Bytes} {strings : List Bytes}
      (many : 2 ≤ level.length) (above : Tree height (parents level) root strings) :
      Tree (height + 1) level root (pairs level ++ strings)

/-- The strings hashed on the way from a level to the root, in at most `fuel` steps. -/
def hashedForRoot : Nat → List Bytes → List Bytes
  | _, [] => []
  | _, [_] => []
  | 0, _ => []
  | fuel + 1, level => pairs level ++ hashedForRoot fuel (parents level)

/-- The strings hashed for the root over the leaves. -/
def hashed (leaves : List Bytes) : List Bytes := hashedForRoot leaves.length leaves

/-- How many levels stand above so many leaves. -/
def height (count : Nat) : Nat := Nat.clog 2 count

theorem height_eq_succ {count : Nat} (many : 2 ≤ count) :
    height count = height ((count + 1) / 2) + 1 :=
  Nat.clog_of_two_le (Nat.le_refl 2) many

theorem tree_of_climbToRoot {fuel : Nat} {level : List Bytes} {root : Bytes}
    (h : climbToRoot fuel level = some root) :
    Tree (height level.length) level root (hashedForRoot fuel level) := by
  fun_induction climbToRoot fuel level with
  | case1 => cases h
  | case2 fuel node =>
    cases h
    have low : height 1 = 0 := Nat.clog_one_right 2
    rw [List.length_singleton, low, hashedForRoot]
    exact .root root
  | case3 => cases h
  | case4 fuel level nonempty one ih =>
    have many : 2 ≤ level.length := by
      match level, nonempty, one with
      | [], nonempty, _ => exact absurd rfl nonempty
      | [node], _, one => exact absurd rfl (one node)
      | a :: b :: rest, _, _ => simp
    have above := ih h
    rw [length_parents] at above
    rw [height_eq_succ many, hashedForRoot]
    · exact .level many above
    · exact nonempty
    · exact one

theorem tree_of_root? {leaves : List Bytes} {root : Bytes} (h : root? leaves = some root) :
    Tree (height leaves.length) leaves root (hashed leaves) :=
  tree_of_climbToRoot h

/-- The strings hashed on the way from a node along siblings. -/
def hashedByClimb (node : Bytes) (position : Nat) : List Bytes → List Bytes
  | [] => []
  | sibling :: rest =>
    let pair := if position % 2 = 1 then sibling ++ node else node ++ sibling
    pair :: hashedByClimb (hash256 pair) (position / 2) rest

theorem hashedByClimb_left (node sibling : Bytes) (position : Nat) (siblings : List Bytes) :
    hashedByClimb node (2 * position) (sibling :: siblings) =
      (node ++ sibling) :: hashedByClimb (hash256 (node ++ sibling)) position siblings := by
  have even : ¬ 2 * position % 2 = 1 := by omega
  have half : 2 * position / 2 = position := by omega
  simp only [hashedByClimb, if_neg even, half]

theorem hashedByClimb_right (node sibling : Bytes) (position : Nat) (siblings : List Bytes) :
    hashedByClimb node (2 * position + 1) (sibling :: siblings) =
      (sibling ++ node) :: hashedByClimb (hash256 (sibling ++ node)) position siblings := by
  have odd : (2 * position + 1) % 2 = 1 := by omega
  have half : (2 * position + 1) / 2 = position := by omega
  simp only [hashedByClimb, if_pos odd, half]

/-- The node is one of the level, and it is the one in the place if the level has that place. -/
def Stands (level : List Bytes) (place : Nat) (node : Bytes) : Prop :=
  node ∈ level ∧ (place < level.length → level[place]? = some node)

theorem width_of_mem_parents {level : List Bytes} {node : Bytes} (h : node ∈ parents level) :
    node.length = 32 := by
  rw [parents_eq_map] at h
  obtain ⟨q, -, rfl⟩ := List.mem_map.mp h
  exact length_hash256 q

/-- Where the hash of two nodes stands above, the nodes stand in the two places below it, if no pair
below has this hash but the two. -/
theorem Stands.below {level : List Bytes} {place : Nat} {left right : Bytes}
    (widths : ∀ a ∈ level, a.length = 32) (width : left.length = 32)
    (injective : ∀ q ∈ pairs level, hash256 (left ++ right) = hash256 q → left ++ right = q)
    (above : Stands (parents level) place (hash256 (left ++ right))) :
    Stands level (2 * place) left ∧ Stands level (2 * place + 1) right := by
  obtain ⟨mem, placed⟩ := above
  rw [parents_eq_map] at mem placed
  have members : left ∈ level ∧ right ∈ level := by
    obtain ⟨q, hq, same⟩ := List.mem_map.mp mem
    have joined := injective q hq same.symm
    obtain ⟨a, ha, b, hb, rfl⟩ := mem_of_mem_pairs hq
    obtain ⟨rfl, rfl⟩ := List.append_inj joined (width.trans (widths a ha).symm)
    exact ⟨ha, hb⟩
  have places (inside : 2 * place < level.length) : level[2 * place]? = some left ∧
      ∀ c, level[2 * place + 1]? = some c → right = c := by
    have half : place < ((pairs level).map hash256).length := by
      rw [← parents_eq_map, length_parents]
      omega
    have found := placed half
    rw [List.getElem?_map, Option.map_eq_some_iff] at found
    obtain ⟨q, found, same⟩ := found
    have joined := injective q (List.mem_of_getElem? found) same.symm
    obtain ⟨a, b, rfl, first, second⟩ := pairs_getElem? found
    have a_width := widths a (List.mem_of_getElem? first)
    obtain ⟨rfl, rfl⟩ := List.append_inj joined (width.trans a_width.symm)
    exact ⟨first, second⟩
  refine ⟨⟨members.1, fun inside => (places inside).1⟩, members.2, fun inside => ?_⟩
  have found := List.getElem?_eq_getElem inside
  rw [found, (places (by omega)).2 _ found]

/-- A branch as long as the tree is high starts at a node of the level, and in its own place if the
level has that place. No string of the branch may have the hash of another of the tree. -/
theorem Tree.stands_of_leads {height position : Nat} {level strings siblings : List Bytes}
    {root node : Bytes} (tree : Tree height level root strings)
    (widths : ∀ a ∈ level, a.length = 32) (width : node.length = 32)
    (sibling_widths : ∀ s ∈ siblings, s.length = 32) (length : siblings.length = height)
    (leads : Leads node position siblings root)
    (injective : ∀ pair ∈ hashedByClimb node position siblings, ∀ q ∈ strings,
      hash256 pair = hash256 q → pair = q) :
    position < 2 ^ height ∧ Stands level position node := by
  induction tree generalizing node position siblings with
  | root root =>
    cases leads with
    | root => exact ⟨Nat.one_pos, List.mem_singleton_self _, fun _ => rfl⟩
    | left | right => cases length
  | @level height level root strings many above ih =>
    cases leads with
    | root => cases length
    | @left _ sibling _ position siblings leads =>
      rw [hashedByClimb_left, List.forall_mem_cons] at injective
      obtain ⟨first, others⟩ := injective
      obtain ⟨bound, stands⟩ := ih (fun a => width_of_mem_parents) (length_hash256 _)
        (fun s hs => sibling_widths s (List.mem_cons_of_mem _ hs)) (Nat.succ.inj length) leads
        fun pair hp q hq => others pair hp q (List.mem_append_right _ hq)
      obtain ⟨stands, -⟩ := stands.below widths width
        fun q hq => first q (List.mem_append_left _ hq)
      exact ⟨by rw [Nat.pow_succ]; omega, stands⟩
    | @right _ sibling _ position siblings leads =>
      rw [hashedByClimb_right, List.forall_mem_cons] at injective
      obtain ⟨first, others⟩ := injective
      obtain ⟨bound, stands⟩ := ih (fun a => width_of_mem_parents) (length_hash256 _)
        (fun s hs => sibling_widths s (List.mem_cons_of_mem _ hs)) (Nat.succ.inj length) leads
        fun pair hp q hq => others pair hp q (List.mem_append_right _ hq)
      obtain ⟨-, stands⟩ := stands.below widths (sibling_widths sibling List.mem_cons_self)
        fun q hq => first q (List.mem_append_left _ hq)
      exact ⟨by rw [Nat.pow_succ]; omega, stands⟩

/-- Every lower height is that of the tree over a level further up, whose nodes are hashes. -/
theorem Tree.lower {height lower : Nat} {level strings : List Bytes} {root : Bytes}
    (tree : Tree height level root strings) (less : lower < height) :
    ∃ upper upper_strings, Tree lower upper root upper_strings ∧
      (∀ q ∈ upper_strings, q ∈ strings) ∧ ∀ node ∈ upper, ∃ q ∈ strings, node = hash256 q := by
  induction tree with
  | root root => omega
  | @level height level root strings many above ih =>
    rcases Nat.lt_succ_iff_lt_or_eq.mp less with less | rfl
    · obtain ⟨upper, upper_strings, tree, sub, hashes⟩ := ih less
      refine ⟨upper, upper_strings, tree, ?_, ?_⟩
      · exact fun q hq => List.mem_append_right _ (sub q hq)
      · intro node mem
        obtain ⟨q, hq, rfl⟩ := hashes node mem
        exact ⟨q, List.mem_append_right _ hq, rfl⟩
    · refine ⟨parents level, strings, above, ?_, ?_⟩
      · exact fun q hq => List.mem_append_right _ hq
      · intro node mem
        rw [parents_eq_map] at mem
        obtain ⟨q, hq, rfl⟩ := List.mem_map.mp mem
        exact ⟨q, List.mem_append_left _ hq, rfl⟩

end BitcoinReserve.Merkle
