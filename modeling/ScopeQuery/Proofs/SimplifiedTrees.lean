import ScopeQuery.Compile.Scope
import ScopeQuery.Matching.Row

/-!
# Simplified trees

A scope around a single child means what the child means. Dropping it keeps the
leaves and their order, the promised fields, the predicate the tree becomes and the
verdict on a row.
The compiler simplifies every tree it meets, so the predicate of a tree is given
here by its shape: a condition, a scope of one child, or any other scope.
-/

namespace ScopeQuery

namespace ScopeTree

/-- A simplified tree has no scope around a single child left on the outside. -/
theorem simplify_simplify (tree : ScopeTree) : tree.simplify.simplify = tree.simplify := by
  fun_induction simplify tree with
  | case1 junction child ih => exact ih
  | case2 tree hsingle => exact simplify.eq_2 tree hsingle

/-- A scope whose children are not one alone is simple already. -/
theorem simplify_scope {children : List ScopeTree} (h : ∀ child, children ≠ [child])
    (junction : Junction) : simplify (.scope junction children) = .scope junction children := by
  refine simplify.eq_2 _ fun _ child hscope => ?_
  injection hscope with _ hchildren
  exact h child hchildren

/-- A simplified tree is a condition or a scope that does not have one child alone. -/
theorem simplify_shape (tree : ScopeTree) :
    (∃ condition, tree.simplify = .condition condition) ∨
      ∃ junction children, tree.simplify = .scope junction children ∧ children.length ≠ 1 := by
  fun_induction simplify tree with
  | case1 junction child ih => exact ih
  | case2 tree hsingle =>
    cases tree with
    | condition condition => exact .inl ⟨condition, rfl⟩
    | scope junction children =>
      refine .inr ⟨junction, children, rfl, fun hlength => ?_⟩
      obtain ⟨child, rfl⟩ := List.length_eq_one_iff.1 hlength
      exact hsingle junction child rfl

/-- Simplifying keeps the leaves in their order. -/
theorem leaves_simplify (tree : ScopeTree) : tree.simplify.leaves = tree.leaves := by
  fun_induction simplify tree with
  | case1 junction child ih => simp [leaves, allLeaves, ih]
  | case2 => rfl

/-- A scope of one child promises what the child does, an alternative alone as well. -/
theorem defaults_singleton (junction : Junction) (child : ScopeTree) :
    defaults (.scope junction [child]) = child.defaults := by
  rw [defaults, if_neg (by simp), allDefaults, allDefaults, List.append_nil]

/-- Simplifying keeps the promised fields. -/
theorem defaults_simplify (tree : ScopeTree) : tree.simplify.defaults = tree.defaults := by
  fun_induction simplify tree with
  | case1 junction child ih => rw [ih, defaults_singleton]
  | case2 => rfl

/-- The defaults of trees one after another. -/
theorem allDefaults_append (trees rest : List ScopeTree) :
    allDefaults (trees ++ rest) = allDefaults trees ++ allDefaults rest := by
  induction trees with
  | nil => rfl
  | cons tree trees ih =>
    rw [List.cons_append, allDefaults, allDefaults, ih, List.append_assoc]

/-- A tree can stand for another one that promises the same fields. -/
theorem allDefaults_congr {tree other : ScopeTree} (h : tree.defaults = other.defaults)
    (before after : List ScopeTree) :
    allDefaults (before ++ tree :: after) = allDefaults (before ++ other :: after) := by
  rw [allDefaults_append, allDefaults_append, allDefaults, allDefaults, h]

end ScopeTree

namespace Matcher

variable (matcher : Matcher) (entity : String) (row : Row)

/-- A scope of one child has the verdict of the child. -/
theorem treesHold_singleton (junction : Junction) (child : ScopeTree) :
    matcher.treesHold entity row junction [child] = matcher.treeHolds entity row child := by
  rw [treesHold]
  cases hchild : matcher.treeHolds entity row child with
  | error error => rfl
  | ok verdict =>
    cases verdict with
    | none => rfl
    | some result => simp [treesHold]

/-- Simplifying keeps the verdict on every row, and the error if there is one. -/
theorem treeHolds_simplify (tree : ScopeTree) :
    matcher.treeHolds entity row tree.simplify = matcher.treeHolds entity row tree := by
  fun_induction ScopeTree.simplify tree with
  | case1 junction child ih => rw [ih, treeHolds.eq_2, treesHold_singleton]
  | case2 => rfl

end Matcher

/-- Simplifying keeps the meaning of a tree. What is left is a condition or a scope that
does not have one child alone, simplifying it again changes nothing, and its conditions are
those of the tree in their order. Whatever the codecs, a row has the same verdict under both
trees, imposes nothing under both or fails under both with one error. A selection promises
the same fields with either tree among its children. -/
theorem ScopeTree.simplify_keeps_meaning (tree : ScopeTree) :
    ((∃ condition, tree.simplify = .condition condition) ∨
      ∃ junction children, tree.simplify = .scope junction children ∧ children.length ≠ 1) ∧
    tree.simplify.simplify = tree.simplify ∧
    tree.simplify.leaves = tree.leaves ∧
    (∀ (matcher : Matcher) (entity : String) (row : Row),
      matcher.treeHolds entity row tree.simplify = matcher.treeHolds entity row tree) ∧
    ∀ (entity : String) (before after : List ScopeTree),
      Selection.defaults ⟨entity, before ++ tree.simplify :: after⟩ =
        Selection.defaults ⟨entity, before ++ tree :: after⟩ := by
  refine ⟨tree.simplify_shape, tree.simplify_simplify, tree.leaves_simplify,
    fun matcher entity row => matcher.treeHolds_simplify entity row tree,
    fun entity before after => ?_⟩
  have hchildren := allDefaults_congr tree.defaults_simplify before after
  simpa [Selection.defaults, Selection.scope, Scope.tree, defaults] using hchildren

namespace Compiler

variable {R : Type} [Relationships R] (compiler : Compiler R) (entity : Entity)

/-- A tree that is a condition becomes the predicate of the condition. -/
theorem treePredicate_condition (condition : Condition) :
    compiler.treePredicate entity (.condition condition) =
      compiler.conditionPredicate entity condition := by
  rw [treePredicate, notedTree]
  rfl

/-- Simplifying keeps the predicate, and the error if there is one. -/
theorem treePredicate_simplify (tree : ScopeTree) :
    compiler.treePredicate entity tree.simplify = compiler.treePredicate entity tree := by
  rw [treePredicate, treePredicate, notedTree, notedTree, ScopeTree.simplify_simplify]

/-- A scope of one child becomes the predicate of the child. -/
theorem treePredicate_singleton (junction : Junction) (child : ScopeTree) :
    compiler.treePredicate entity (.scope junction [child]) =
      compiler.treePredicate entity child := by
  rw [← treePredicate_simplify, ScopeTree.simplify, treePredicate_simplify]

/-- Any other scope becomes the group of its children's predicates. -/
theorem treePredicate_scope {children : List ScopeTree} (h : ∀ child, children ≠ [child])
    (junction : Junction) :
    compiler.treePredicate entity (.scope junction children) =
      (compiler.treePredicates entity children).map (groupPredicate junction) := by
  rw [treePredicate, notedTree]
  split
  · rename_i condition hsimple
    rw [ScopeTree.simplify_scope h] at hsimple
    exact absurd hsimple (by simp)
  · rename_i found simplified hsimple
    rw [ScopeTree.simplify_scope h] at hsimple
    injection hsimple with hjunction hchildren
    subst hjunction hchildren
    rfl

/-- No trees have no predicates. -/
theorem treePredicates_nil : compiler.treePredicates entity [] = .ok [] := by
  rw [treePredicates, notedTrees]
  rfl

/-- The predicate of the first tree stands before those of the others. -/
theorem treePredicates_cons (tree : ScopeTree) (rest : List ScopeTree) :
    compiler.treePredicates entity (tree :: rest) =
      ((compiler.treePredicate entity tree).map Option.toList).bind fun predicates =>
        (compiler.treePredicates entity rest).map fun behind => predicates ++ behind := by
  rw [treePredicates, notedTrees, Noted.bind_result, ← treePredicate]
  cases compiler.treePredicate entity tree <;> rfl

/-- The predicates of a scope are those of its children when it simplifies to an
"and" of them. -/
theorem scopePredicates_and {scope : Scope} {children : List ScopeTree}
    (h : scope.simplify = .scope .and children) :
    compiler.scopePredicates entity scope = compiler.treePredicates entity children := by
  rw [scopePredicates, notedScope]
  split
  · rename_i simplified hsimple
    rw [h] at hsimple
    injection hsimple with _ hchildren
    rw [hchildren, treePredicates]
  · rename_i hother
    exact absurd h (hother children)

/-- Any other scope has one predicate at most. -/
theorem scopePredicates_other {scope : Scope}
    (h : ∀ children, scope.simplify ≠ .scope .and children) :
    compiler.scopePredicates entity scope =
      (compiler.treePredicate entity scope.tree).map Option.toList := by
  rw [scopePredicates, notedScope]
  split
  · rename_i children hsimple
    exact absurd hsimple (h children)
  · rw [← treePredicate_simplify]
    rfl

end Compiler

end ScopeQuery
