import ScopeQuery.Matching.Row
import ScopeQuery.Proofs.LeafPredicates

/-!
# Imposed conditions

A condition imposes nothing when it is empty or when its computed comparand
declines. Resolving, compiling and matching agree on which conditions these are:
nothing is left of them, they become no predicate and they give no verdict. A tree
gives no verdict exactly when all of its leaves are such conditions.
-/

namespace ScopeQuery

namespace Condition

/-- Whether the comparand is computed and its computation gives no value. -/
def declines (condition : Condition) : Bool :=
  match condition.test with
  | some (_, .computed compute) => (compute condition.head).isNone
  | _ => false

/-- Whether the condition imposes anything. -/
def imposes (condition : Condition) : Bool := !condition.isEmpty && !condition.declines

/-- A condition imposes nothing when it is empty or its comparand declines. -/
theorem imposes_eq_false_iff (condition : Condition) :
    condition.imposes = false ↔ condition.isEmpty = true ∨ condition.declines = true := by
  cases hempty : condition.isEmpty <;> cases hdeclines : condition.declines <;>
    simp [imposes, hempty, hdeclines]

/-- Nothing is left of a condition exactly when it imposes nothing. -/
theorem resolved_eq_none_iff (condition : Condition) :
    condition.resolved = .ok none ↔ condition.imposes = false := by
  rw [imposes_eq_false_iff]
  cases hempty : condition.isEmpty with
  | true => simp [resolved_of_isEmpty hempty]
  | false =>
    by_cases hcomputed : ∃ operator compute, condition.test = some (operator, .computed compute)
    · obtain ⟨operator, compute, htest⟩ := hcomputed
      rw [resolved_of_computed htest, declines, htest]
      dsimp only
      cases compute condition.head with
      | none => simp [withComputed]
      | some value =>
        rw [withComputed]
        cases Comparand.check operator (.ofValue value) <;> simp
    · have hplain : ∀ operator compute, condition.test ≠ some (operator, .computed compute) :=
        fun operator compute htest => hcomputed ⟨operator, compute, htest⟩
      have hdeclines : condition.declines = false := by
        unfold declines
        split
        · rename_i operator compute htest
          exact absurd htest (hplain operator compute)
        · rfl
      simp [resolved_of_plain hempty hplain, hdeclines]

end Condition

section Compiling

variable {R : Type} [Relationships R]

/-- A condition becomes no predicate exactly when it imposes nothing. -/
theorem Compiler.conditionPredicate_eq_none_iff (compiler : Compiler R) (entity : Entity)
    (condition : Condition) :
    compiler.conditionPredicate entity condition = .ok none ↔ condition.imposes = false := by
  rw [← Condition.resolved_eq_none_iff]
  cases hresolved : condition.resolved with
  | error error => simp [conditionPredicate_of_error hresolved]
  | ok found =>
    cases found with
    | none => simp [conditionPredicate_of_nothing hresolved]
    | some resolved =>
      rw [conditionPredicate_of_resolved hresolved]
      cases compiler.resolvedPredicate entity resolved <;> simp [Except.map]

/-- A condition that becomes a predicate imposes something. -/
theorem Compiler.imposes_of_conditionPredicate {compiler : Compiler R} {entity : Entity}
    {condition : Condition} {predicate : Predicate}
    (h : compiler.conditionPredicate entity condition = .ok (some predicate)) :
    condition.imposes = true := by
  cases himposes : condition.imposes with
  | true => rfl
  | false =>
    rw [(compiler.conditionPredicate_eq_none_iff entity condition).2 himposes] at h
    simp at h

end Compiling

/-- A condition has no verdict exactly when it imposes nothing. -/
theorem Matcher.conditionHolds_eq_none_iff (matcher : Matcher) (entity : String) (row : Row)
    (condition : Condition) :
    matcher.conditionHolds entity row condition = .ok none ↔ condition.imposes = false := by
  rw [← Condition.resolved_eq_none_iff, conditionHolds]
  split
  · rename_i hresolved
    simp [hresolved]
  · rename_i hresolved
    simp [hresolved]
  · rename_i resolved hresolved
    cases hholds : matcher.resolvedHolds entity row resolved <;> simp [hresolved]

mutual

/-- A tree is empty exactly when all of its leaves are. -/
theorem ScopeTree.isEmpty_iff (tree : ScopeTree) :
    tree.isEmpty = true ↔ ∀ c ∈ tree.leaves, c.isEmpty = true := by
  cases tree with
  | condition c => simp [isEmpty, leaves]
  | scope junction children =>
    rw [isEmpty, leaves]
    exact allEmpty_iff children

/-- Several trees are empty exactly when all of their leaves are. -/
theorem ScopeTree.allEmpty_iff (trees : List ScopeTree) :
    allEmpty trees = true ↔ ∀ c ∈ allLeaves trees, c.isEmpty = true := by
  cases trees with
  | nil => simp [allEmpty, allLeaves]
  | cons tree rest =>
    simp only [allEmpty, allLeaves, Bool.and_eq_true, List.mem_append, or_imp, forall_and,
      isEmpty_iff tree, allEmpty_iff rest]

end

namespace Matcher

variable (matcher : Matcher) (entity : String) (row : Row)

mutual

/-- A tree has no verdict exactly when none of its leaves imposes anything. -/
theorem treeHolds_eq_none_iff (tree : ScopeTree) :
    matcher.treeHolds entity row tree = .ok none ↔ ∀ c ∈ tree.leaves, c.imposes = false := by
  cases tree with
  | condition c => simp [treeHolds, ScopeTree.leaves, conditionHolds_eq_none_iff]
  | scope junction children =>
    rw [treeHolds, ScopeTree.leaves]
    exact treesHold_eq_none_iff junction children

/-- Joined trees have no verdict exactly when none of their leaves imposes anything. -/
theorem treesHold_eq_none_iff (junction : Junction) (trees : List ScopeTree) :
    matcher.treesHold entity row junction trees = .ok none ↔
      ∀ c ∈ ScopeTree.allLeaves trees, c.imposes = false := by
  cases trees with
  | nil => simp [treesHold, ScopeTree.allLeaves]
  | cons tree rest =>
    simp only [treesHold, ScopeTree.allLeaves, List.mem_append, or_imp, forall_and,
      ← treeHolds_eq_none_iff tree, ← treesHold_eq_none_iff junction rest]
    cases htree : matcher.treeHolds entity row tree with
    | error error => simp
    | ok verdict =>
      cases verdict with
      | none => simp
      | some result =>
        dsimp only
        split
        · simp
        · cases hrest : matcher.treesHold entity row junction rest with
          | error error => simp
          | ok further => cases further <;> simp

end

end Matcher

end ScopeQuery
