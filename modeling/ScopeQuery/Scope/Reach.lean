import ScopeQuery.Scope.Basic

/-!
# Reach

The paths in a tree, and how far they lead by the ranks of paths. A condition on a path over a
hop is compiled as one on the rest of the path, and the related rows bring conditions of their
own. Where all of these have smaller ranks, the reach falls with every hop and bounds the
compilation.
-/

namespace ScopeQuery

/-- The path a condition is about. -/
def Condition.path? (condition : Condition) : Option String :=
  condition.subject.bind Subject.path?

/-- The rank of the path a condition is about. -/
def Condition.reach (rank : String → Nat) (condition : Condition) : Nat :=
  match condition.subject with
  | some (.path path) => rank path
  | _ => 0

/-- Resolving a condition keeps its path. -/
theorem Condition.reach_of_resolved {condition found : Condition}
    (h : condition.resolved = .ok (some found)) (rank : String → Nat) :
    found.reach rank = condition.reach rank := by
  rw [reach, subject_of_resolved h, reach]

/-- A condition reaches less far than a bound that is above the rank of its path. -/
theorem Condition.reach_lt {condition : Condition} {rank : String → Nat} {bound : Nat}
    (hbound : 0 < bound) (h : ∀ path, condition.path? = some path → rank path < bound) :
    condition.reach rank < bound := by
  unfold reach
  split
  · rename_i path hsubject
    exact h path (by rw [path?, hsubject]; rfl)
  · exact hbound

namespace ScopeTree

/-- The paths that conditions of several trees are about, from left to right. -/
def allPaths (trees : List ScopeTree) : List String := (allLeaves trees).filterMap Condition.path?

mutual

/-- The highest rank of a path in a tree. -/
def reach (rank : String → Nat) : ScopeTree → Nat
  | .condition c => c.reach rank
  | .scope _ children => farthest rank children

/-- The highest rank of a path in several trees. -/
def farthest (rank : String → Nat) : List ScopeTree → Nat
  | [] => 0
  | tree :: rest => max (reach rank tree) (farthest rank rest)

end

mutual

/-- A tree reaches less far than a bound that none of its conditions reaches. -/
theorem reach_lt_of_leaves {rank : String → Nat} {bound : Nat} (hbound : 0 < bound) :
    (tree : ScopeTree) → (∀ condition ∈ tree.leaves, condition.reach rank < bound) →
      tree.reach rank < bound
  | .condition _, h => h _ (List.mem_singleton_self _)
  | .scope _ children, h => farthest_lt_of_leaves hbound children h

/-- Several trees reach less far than a bound that none of their conditions reaches. -/
theorem farthest_lt_of_leaves {rank : String → Nat} {bound : Nat} (hbound : 0 < bound) :
    (trees : List ScopeTree) → (∀ condition ∈ allLeaves trees, condition.reach rank < bound) →
      farthest rank trees < bound
  | [], _ => hbound
  | tree :: rest, h =>
    Nat.max_lt.2
      ⟨reach_lt_of_leaves hbound tree fun _ hmem => h _ (List.mem_append_left _ hmem),
        farthest_lt_of_leaves hbound rest fun _ hmem => h _ (List.mem_append_right _ hmem)⟩

end

/-- Several trees reach less far than a bound that is above the ranks of their paths. -/
theorem farthest_lt {rank : String → Nat} {bound : Nat} (hbound : 0 < bound)
    {trees : List ScopeTree} (h : ∀ path ∈ allPaths trees, rank path < bound) :
    farthest rank trees < bound := by
  refine farthest_lt_of_leaves hbound trees fun leaf hmem => ?_
  exact leaf.reach_lt hbound fun path hpath => h path (List.mem_filterMap.2 ⟨leaf, hmem, hpath⟩)

/-- One more tree is reached as well. -/
theorem farthest_concat (rank : String → Nat) (trees : List ScopeTree) (tree : ScopeTree) :
    farthest rank (trees ++ [tree]) = max (farthest rank trees) (tree.reach rank) := by
  induction trees with
  | nil => simp [farthest]
  | cons first rest ih => rw [List.cons_append, farthest, farthest, ih, Nat.max_assoc]

/-- Dropping the scopes around a single child keeps the reach. -/
theorem reach_simplify (rank : String → Nat) (tree : ScopeTree) :
    tree.simplify.reach rank = tree.reach rank := by
  fun_induction simplify tree with
  | case1 junction child ih => simp [reach, farthest, ih]
  | case2 => rfl

/-- Dropping the scopes around a single child makes no tree larger. -/
theorem sizeOf_simplify_le (tree : ScopeTree) : sizeOf tree.simplify ≤ sizeOf tree := by
  fun_induction simplify tree with
  | case1 junction child ih =>
    simp only [scope.sizeOf_spec, List.cons.sizeOf_spec]
    omega
  | case2 => exact Nat.le_refl _

end ScopeTree

end ScopeQuery
