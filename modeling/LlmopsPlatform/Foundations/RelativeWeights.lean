import LlmopsPlatform.Foundations.WeightedTree

/-!
# Trees whose weights are relative

The weights of a node are often given only up to a common factor, and are divided by their
total before the node is evaluated (`normalize`). Without a positive total they count as
zero.

The value of such a tree does not change when the children of one node are permuted, when
their weights are multiplied by a positive constant, or when a child of weight zero is added
(`relativeValue_eq_of_same`). When no weight is negative and the function at the nodes is monotone,
raising the value of a leaf does not lower the value of the tree (`relativeValue_le_of_raised`).
-/

set_option autoImplicit false

namespace Foundations.WeightedTree

variable {K Leaf : Type*}

section Definitions

variable [Field K] [LinearOrder K]

mutual
/-- The tree with the weights of each node divided by their total. -/
def normalize : WeightedTree K Leaf → WeightedTree K Leaf
  | .leaf item => .leaf item
  | .node children => .node (normalizeChildren (totalWeight Prod.fst children) children)

def normalizeChildren (total : K) :
    List (K × WeightedTree K Leaf) → List (K × WeightedTree K Leaf)
  | [] => []
  | (weight, child) :: rest =>
      (if 0 < total then weight / total else 0, normalize child) :: normalizeChildren total rest
end

/-- A change of one subtree, which may be the whole tree. -/
inductive AtSubtree (change : WeightedTree K Leaf → WeightedTree K Leaf → Prop) :
    WeightedTree K Leaf → WeightedTree K Leaf → Prop
  | here {tree other : WeightedTree K Leaf} (changed : change tree other) :
      AtSubtree change tree other
  | deeper (before after : List (K × WeightedTree K Leaf)) (weight : K)
      {child other : WeightedTree K Leaf} (changed : AtSubtree change child other) :
      AtSubtree change (.node (before ++ (weight, child) :: after))
        (.node (before ++ (weight, other) :: after))

/-- A change of the children of one node that leaves their relative weights as they are. -/
inductive SameRelativeWeights : WeightedTree K Leaf → WeightedTree K Leaf → Prop
  | scaled {factor : K} (positive : 0 < factor) (children : List (K × WeightedTree K Leaf)) :
      SameRelativeWeights (.node children)
        (.node (children.map fun child => (factor * child.1, child.2)))
  | permuted {children others : List (K × WeightedTree K Leaf)} (perm : children.Perm others) :
      SameRelativeWeights (.node children) (.node others)
  | weightless (before after : List (K × WeightedTree K Leaf)) (added : WeightedTree K Leaf) :
      SameRelativeWeights (.node (before ++ after)) (.node (before ++ (0, added) :: after))

/-- No weight in the tree is negative. -/
inductive NonnegWeights : WeightedTree K Leaf → Prop
  | leaf (item : Leaf) : NonnegWeights (.leaf item)
  | node {children : List (K × WeightedTree K Leaf)} (nonneg : ∀ child ∈ children, 0 ≤ child.1)
      (below : ∀ child ∈ children, NonnegWeights child.2) : NonnegWeights (.node children)

end Definitions

section Evaluation

variable [Field K] [LinearOrder K]

/-- The weight of a child relative to the total. -/
def relativeWeight (children : List (K × WeightedTree K Leaf)) (child : K × WeightedTree K Leaf) :
    K :=
  if 0 < totalWeight Prod.fst children then child.1 / totalWeight Prod.fst children else 0

theorem normalizeChildren_eq_map (total : K) (children : List (K × WeightedTree K Leaf)) :
    normalizeChildren total children =
      children.map fun child => (if 0 < total then child.1 / total else 0, normalize child.2) := by
  induction children with
  | nil => rfl
  | cons child rest ih => rw [normalizeChildren, ih, List.map_cons]

variable {round : K → K} {value : Leaf → K}

/-- The value of a tree with relative weights. -/
def relativeValue (round : K → K) (value : Leaf → K) (tree : WeightedTree K Leaf) : K :=
  eval round value (normalize tree)

theorem relativeValue_leaf (item : Leaf) : relativeValue round value (.leaf item) = value item := by
  rw [relativeValue, normalize, eval]

/-- **A node** is the sum of its children, each times its relative weight, rounded. -/
theorem relativeValue_node (children : List (K × WeightedTree K Leaf)) :
    relativeValue round value (.node children) =
      round (weightedSum (relativeWeight children)
        (fun child => relativeValue round value child.2) children) := by
  rw [relativeValue, normalize, eval_node, normalizeChildren_eq_map, weightedSum, weightedSum,
    List.map_map]
  rfl

/-- A node depends on the total of its weights and on the sum of its weighted children. -/
theorem relativeValue_node_eq {children others : List (K × WeightedTree K Leaf)}
    (total : totalWeight Prod.fst children = totalWeight Prod.fst others)
    (sums : weightedSum (relativeWeight children)
        (fun child => relativeValue round value child.2) children =
      weightedSum (relativeWeight children)
        (fun child => relativeValue round value child.2) others) :
    relativeValue round value (.node children) = relativeValue round value (.node others) := by
  have weights : relativeWeight children = relativeWeight others := by
    funext child
    rw [relativeWeight, relativeWeight, total]
  rw [relativeValue_node, relativeValue_node, sums, weights]

/-! ## Relative weights -/

section Same

variable {children others : List (K × WeightedTree K Leaf)}

/-- The order of the children does not matter. -/
theorem relativeValue_permuted (perm : children.Perm others) :
    relativeValue round value (.node children) = relativeValue round value (.node others) :=
  relativeValue_node_eq (perm.map _).sum_eq (perm.map _).sum_eq

/-- A child of weight zero does not count. -/
theorem relativeValue_weightless (before after : List (K × WeightedTree K Leaf))
    (added : WeightedTree K Leaf) :
    relativeValue round value (.node (before ++ after)) =
      relativeValue round value (.node (before ++ (0, added) :: after)) := by
  refine relativeValue_node_eq (by simp [totalWeight]) ?_
  simp [weightedSum, relativeWeight]

/-- A changed child changes the value of a node by its relative weight. -/
theorem relativeValue_below (before after : List (K × WeightedTree K Leaf)) (weight : K)
    {child other : WeightedTree K Leaf}
    (same : relativeValue round value child = relativeValue round value other) :
    relativeValue round value (.node (before ++ (weight, child) :: after)) =
      relativeValue round value (.node (before ++ (weight, other) :: after)) := by
  refine relativeValue_node_eq (by simp [totalWeight]) ?_
  simp [weightedSum, relativeWeight, same]

variable [IsStrictOrderedRing K]

/-- A common positive factor cancels. -/
theorem relativeValue_scaled {factor : K} (positive : 0 < factor)
    (children : List (K × WeightedTree K Leaf)) :
    relativeValue round value (.node (children.map fun child => (factor * child.1, child.2))) =
      relativeValue round value (.node children) := by
  have total : totalWeight Prod.fst (children.map fun child => (factor * child.1, child.2)) =
      factor * totalWeight Prod.fst children := by
    rw [totalWeight, totalWeight, List.map_map, ← List.sum_map_mul_left]
    rfl
  have weights (child : K × WeightedTree K Leaf) :
      relativeWeight (children.map fun child => (factor * child.1, child.2))
          (factor * child.1, child.2) = relativeWeight children child := by
    rw [relativeWeight, relativeWeight, total]
    simp only [mul_pos_iff_of_pos_left positive, mul_div_mul_left _ _ positive.ne']
  rw [relativeValue_node, relativeValue_node, weightedSum, weightedSum, List.map_map]
  simp only [Function.comp_def, weights]

/-- **The value depends on relative weights** only. -/
theorem relativeValue_eq_of_same {tree other : WeightedTree K Leaf}
    (same : AtSubtree SameRelativeWeights tree other) :
    relativeValue round value tree = relativeValue round value other := by
  induction same with
  | here changed =>
      cases changed with
      | scaled positive children => exact (relativeValue_scaled positive children).symm
      | permuted perm => exact relativeValue_permuted perm
      | weightless before after added => exact relativeValue_weightless before after added
  | deeper before after weight _ ih => exact relativeValue_below before after weight ih

end Same

/-! ## Monotonicity -/

section Monotone

variable [IsStrictOrderedRing K]

theorem relativeWeight_nonneg {children : List (K × WeightedTree K Leaf)}
    {child : K × WeightedTree K Leaf} (nonneg : 0 ≤ child.1) :
    0 ≤ relativeWeight children child := by
  unfold relativeWeight
  split
  · rename_i positive
    exact div_nonneg nonneg positive.le
  · exact le_rfl

/-- **Raising a subtree** does not lower the value. -/
theorem relativeValue_le_of_raised {change : WeightedTree K Leaf → WeightedTree K Leaf → Prop}
    (mono : Monotone round)
    (raises : ∀ tree other, change tree other →
      relativeValue round value tree ≤ relativeValue round value other)
    {tree other : WeightedTree K Leaf} (nonneg : NonnegWeights tree)
    (raised : AtSubtree change tree other) :
    relativeValue round value tree ≤ relativeValue round value other := by
  induction raised with
  | here changed => exact raises _ _ changed
  | @deeper before after weight child other _ ih =>
      cases nonneg with
      | node nonneg below =>
          have isChild : (weight, child) ∈ before ++ (weight, child) :: after := by simp
          have higher := ih (below _ isChild)
          have share : 0 ≤ relativeWeight (before ++ (weight, child) :: after) (weight, child) :=
            relativeWeight_nonneg (nonneg _ isChild)
          have weights : relativeWeight (before ++ (weight, other) :: after) =
              relativeWeight (before ++ (weight, child) :: after) := by
            funext child
            simp [relativeWeight, totalWeight]
          rw [relativeValue_node, relativeValue_node, weights]
          apply mono
          have term := mul_le_mul_of_nonneg_right higher share
          have sameShare : relativeWeight (before ++ (weight, child) :: after) (weight, other) =
              relativeWeight (before ++ (weight, child) :: after) (weight, child) := rfl
          simp only [weightedSum, List.map_append, List.map_cons, List.sum_append, List.sum_cons,
            sameShare]
          linarith

end Monotone

end Evaluation

end Foundations.WeightedTree
