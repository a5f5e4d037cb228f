import LlmopsPlatform.Foundations.WeightedSum
import Mathlib.Tactic.Ring

/-!
# Trees of weighted sums

A node gives each of its children a weight. The tree is evaluated from its leaves: a
node is the weighted sum of its children, to which a function, such as a rounding, is
applied.

Without a rounding the value of a tree is one weighted sum over its leaves, each with the
product of the weights on its path (`eval_id`).
-/

set_option autoImplicit false

namespace Foundations

/-- A tree whose nodes give each child a weight. -/
inductive WeightedTree (K Leaf : Type*) where
  | leaf (item : Leaf)
  | node (children : List (K × WeightedTree K Leaf))

namespace WeightedTree

variable {K Leaf : Type*}

section Definitions

variable [Field K]

mutual
/-- The value of a tree, where a function is applied at every node. -/
def eval (round : K → K) (value : Leaf → K) : WeightedTree K Leaf → K
  | .leaf item => value item
  | .node children => round (evalSum round value children)

def evalSum (round : K → K) (value : Leaf → K) : List (K × WeightedTree K Leaf) → K
  | [] => 0
  | (weight, child) :: rest => eval round value child * weight + evalSum round value rest
end

mutual
/-- The leaves, each with the product of the weights on its path. -/
def leaves : WeightedTree K Leaf → List (K × Leaf)
  | .leaf item => [(1, item)]
  | .node children => childLeaves children

def childLeaves : List (K × WeightedTree K Leaf) → List (K × Leaf)
  | [] => []
  | (weight, child) :: rest =>
      (leaves child).map (fun entry => (weight * entry.1, entry.2)) ++ childLeaves rest
end

end Definitions

mutual
/-- The number of nodes on the longest path, not counting nodes without children. -/
def depth : WeightedTree K Leaf → Nat
  | .leaf _ => 0
  | .node children => childDepth children

def childDepth : List (K × WeightedTree K Leaf) → Nat
  | [] => 0
  | (_, child) :: rest => max (depth child + 1) (childDepth rest)
end

section Evaluation

variable [Field K] {round : K → K} {value : Leaf → K}

/-- A node is the weighted sum of its children, rounded. -/
theorem eval_node (children : List (K × WeightedTree K Leaf)) :
    eval round value (.node children) =
      round (weightedSum Prod.fst (fun child => eval round value child.2) children) := by
  have sum : evalSum round value children =
      weightedSum Prod.fst (fun child => eval round value child.2) children := by
    induction children with
    | nil => rfl
    | cons child rest ih => rw [evalSum, ih, weightedSum, weightedSum, List.map_cons, List.sum_cons]
  rw [eval, sum]

mutual
/-- **Flattening.** Without a rounding the value is a weighted sum over the leaves. -/
theorem eval_id : ∀ tree : WeightedTree K Leaf,
    eval id value tree = weightedSum Prod.fst (fun entry => value entry.2) (leaves tree)
  | .leaf item => by simp [eval, leaves, weightedSum]
  | .node children => by
      rw [eval, leaves]
      exact evalSum_id children

theorem evalSum_id : ∀ children : List (K × WeightedTree K Leaf),
    evalSum id value children =
      weightedSum Prod.fst (fun entry => value entry.2) (childLeaves children)
  | [] => rfl
  | (weight, child) :: rest => by
      rw [evalSum, childLeaves, eval_id child, evalSum_id rest]
      simp only [weightedSum, List.map_append, List.sum_append, List.map_map,
        ← List.sum_map_mul_right]
      congr 3
      funext entry
      simp only [Function.comp]
      ring
end

end Evaluation

theorem depth_lt_of_mem {children : List (K × WeightedTree K Leaf)}
    {child : K × WeightedTree K Leaf} (member : child ∈ children) :
    child.2.depth < depth (.node children) := by
  rw [depth]
  induction children with
  | nil => cases member
  | cons head rest ih =>
      rw [childDepth]
      rcases List.mem_cons.mp member with rfl | later
      · exact Nat.le_max_left _ _
      · exact (ih later).trans_le (Nat.le_max_right _ _)

end WeightedTree

end Foundations
