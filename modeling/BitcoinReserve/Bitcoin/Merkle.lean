import BitcoinReserve.Crypto.Sha256

/-!
# Merkle trees

A level of odd length repeats its last node. A branch lists the sibling met on each level, from the
leaves up.
-/
namespace BitcoinReserve.Merkle

/-- The level above. -/
def parents : List Bytes → List Bytes
  | a :: b :: rest => hash256 (a ++ b) :: parents rest
  | [a] => [hash256 (a ++ a)]
  | [] => []

theorem length_parents (level : List Bytes) : (parents level).length = (level.length + 1) / 2 := by
  fun_induction parents level with
  | case1 a b rest ih => simp only [List.length_cons, ih]; omega
  | case2 => simp
  | case3 => rfl

/-- The root over a level, found in at most `fuel` steps upwards. -/
def climbToRoot : Nat → List Bytes → Option Bytes
  | _, [] => none
  | _, [root] => some root
  | 0, _ => none
  | fuel + 1, level => climbToRoot fuel (parents level)

/-- The root over the leaves; there is none over no leaves. -/
def root? (leaves : List Bytes) : Option Bytes := climbToRoot leaves.length leaves

def sibling? (level : List Bytes) (position : Nat) : Option Bytes :=
  let level := if level.length % 2 = 1 then level ++ level.getLast?.toList else level
  level[position ^^^ 1]?

def collect : Nat → List Bytes → Nat → Option (List Bytes)
  | 0, _, _ => some []
  | fuel + 1, level, position =>
    if level.length ≤ 1 then some []
    else do
      let sibling ← sibling? level position
      let above ← collect fuel (parents level) (position / 2)
      return sibling :: above

/-- The branch of the leaf at `index`, unless a sibling on it does not exist. -/
def branch? (leaves : List Bytes) (index : Nat) : Option Bytes :=
  (collect leaves.length leaves index).map List.flatten

/-- The node reached from `node` by the siblings, and what is left of its position. -/
def climb (node : Bytes) (position : Nat) : List Bytes → Bytes × Nat
  | [] => (node, position)
  | sibling :: rest =>
    climb (if position % 2 = 1 then hash256 (sibling ++ node) else hash256 (node ++ sibling))
      (position / 2) rest

/-- Whether the branch leads from the leaf at `index` to the root and is as long as the index
requires. -/
def proves (leaf root branch : Bytes) (index : Int) : Bool :=
  match index with
  | .negSucc _ => false
  | .ofNat position => branch.length % 32 = 0 && climb leaf position (pieces 32 branch) = (root, 0)

end BitcoinReserve.Merkle
