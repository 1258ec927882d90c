import ScopeQuery.Proofs.DocumentLeaves
import ScopeQuery.Scope.InPlace

/-!
# Atomic negation

Negating a tree in place gives the tree with every junction and every operator turned round, or
leaves it as it was. The first leaf without an operator decides which: a failure deep in a tree
comes after siblings have been negated, but only in copies that are given up.
-/

namespace ScopeQuery

/-- The opposite of the opposite junction is the junction. -/
theorem Junction.flip_flip (junction : Junction) : junction.flip.flip = junction := by
  cases junction <;> rfl

namespace Condition

/-- Whether the condition imposes something without an operator, so that it has no opposite. -/
def lacksOperator (condition : Condition) : Bool :=
  !condition.isEmpty && condition.operator.isNone

/-- The condition with its operator turned round. Subject and comparand are kept. -/
def opposite (condition : Condition) : Condition :=
  { condition with test := condition.test.map fun test => (test.1.negate, test.2) }

/-- The opposite of the opposite is the condition. -/
theorem opposite_opposite (condition : Condition) : condition.opposite.opposite = condition := by
  obtain ⟨subject, test⟩ := condition
  cases test with
  | none => rfl
  | some test => simp [opposite, Operator.negate_negate]

/-- A condition and its opposite both have an operator, or both lack it. -/
theorem lacksOperator_opposite (condition : Condition) :
    condition.opposite.lacksOperator = condition.lacksOperator := by
  obtain ⟨subject, test⟩ := condition
  cases test <;> rfl

/-- A condition becomes its opposite, or it lacks an operator and is left as it was. -/
theorem negateInPlace_eq (condition : Condition) :
    condition.negateInPlace =
      if condition.lacksOperator then (.error (.noNegation condition.describe), condition)
      else (.ok (), condition.opposite) := by
  obtain ⟨subject, test⟩ := condition
  cases test with
  | none => cases subject <;> rfl
  | some test =>
    obtain ⟨operator, comparand⟩ := test
    simp [negateInPlace, negate, isEmpty, lacksOperator, Condition.operator, opposite]

end Condition

namespace ScopeTree

mutual

/-- The tree with every junction and every operator turned round. Its shape and what the leaves
are about are kept. -/
def opposite : ScopeTree → ScopeTree
  | .condition c => .condition c.opposite
  | .scope junction children => .scope junction.flip (opposites children)

/-- Several trees with every junction and every operator turned round. -/
def opposites : List ScopeTree → List ScopeTree
  | [] => []
  | tree :: rest => opposite tree :: opposites rest

end

mutual

/-- The opposite of the opposite is the tree. -/
theorem opposite_opposite (tree : ScopeTree) : tree.opposite.opposite = tree := by
  match tree with
  | .condition c => rw [opposite, opposite, c.opposite_opposite]
  | .scope junction children =>
    rw [opposite, opposite, junction.flip_flip, opposites_opposites children]

/-- The opposites of the opposites are the trees. -/
theorem opposites_opposites (trees : List ScopeTree) : opposites (opposites trees) = trees := by
  match trees with
  | [] => rfl
  | tree :: rest =>
    rw [opposites, opposites, opposite_opposite tree, opposites_opposites rest]

end

mutual

/-- The leaves of the opposite are the opposites of the leaves, in the same order. -/
theorem leaves_opposite (tree : ScopeTree) :
    tree.opposite.leaves = tree.leaves.map Condition.opposite := by
  match tree with
  | .condition c => rfl
  | .scope junction children => exact allLeaves_opposites children

/-- The leaves of the opposites are the opposites of the leaves, in the same order. -/
theorem allLeaves_opposites (trees : List ScopeTree) :
    allLeaves (opposites trees) = (allLeaves trees).map Condition.opposite := by
  match trees with
  | [] => rfl
  | tree :: rest =>
    rw [opposites, allLeaves, allLeaves, leaves_opposite tree, allLeaves_opposites rest,
      List.map_append]

end

/-- The first leaf of a tree that lacks an operator. -/
def firstUnnegatable? (tree : ScopeTree) : Option Condition :=
  tree.leaves.find? Condition.lacksOperator

/-- In the opposite of a tree no leaf lacks an operator when none does in the tree. -/
theorem firstUnnegatable?_opposite {tree : ScopeTree} (h : tree.firstUnnegatable? = none) :
    tree.opposite.firstUnnegatable? = none := by
  rw [firstUnnegatable?, List.find?_eq_none] at h ⊢
  rw [leaves_opposite]
  intro c hc
  obtain ⟨given, hgiven, rfl⟩ := List.mem_map.1 hc
  rw [given.lacksOperator_opposite]
  exact h given hgiven

mutual

/-- A tree becomes its opposite, or a leaf lacks an operator and the tree is left as it was. -/
theorem negateInPlace_eq (tree : ScopeTree) :
    tree.negateInPlace =
      match tree.firstUnnegatable? with
      | none => (.ok (), tree.opposite)
      | some c => (.error (.noNegation c.describe), tree) := by
  match tree with
  | .condition c =>
    rw [negateInPlace, c.negateInPlace_eq, firstUnnegatable?, leaves, List.find?_singleton]
    cases c.lacksOperator <;> rfl
  | .scope junction children =>
    have hchildren := negateEach_eq children
    rw [firstUnnegatable?, leaves, negateInPlace]
    cases hfirst : (allLeaves children).find? Condition.lacksOperator with
    | none =>
      rw [hfirst] at hchildren
      rw [hchildren]
      rfl
    | some c =>
      -- The copy is negated up to the failing child, but it is not taken over.
      rw [hfirst] at hchildren
      obtain ⟨copy, hcopy⟩ := hchildren
      rw [hcopy]

/-- Trees become their opposites, or the first leaf that lacks an operator stops the negation
somewhere among them. -/
theorem negateEach_eq (trees : List ScopeTree) :
    match (allLeaves trees).find? Condition.lacksOperator with
    | none => negateEach trees = (.ok (), opposites trees)
    | some c => ∃ copy, negateEach trees = (.error (.noNegation c.describe), copy) := by
  match trees with
  | [] => rfl
  | tree :: rest =>
    have htree := negateInPlace_eq tree
    have hrest := negateEach_eq rest
    rw [firstUnnegatable?] at htree
    rw [allLeaves, List.find?_append, negateEach]
    cases hfirst : tree.leaves.find? Condition.lacksOperator with
    | some c =>
      rw [hfirst] at htree
      rw [htree]
      exact ⟨tree :: rest, rfl⟩
    | none =>
      rw [hfirst] at htree
      rw [htree, Option.none_or]
      cases hnext : (allLeaves rest).find? Condition.lacksOperator with
      | none =>
        rw [hnext] at hrest
        rw [hrest]
        rfl
      | some c =>
        rw [hnext] at hrest
        obtain ⟨copy, hcopy⟩ := hrest
        rw [hcopy]
        exact ⟨tree.opposite :: copy, rfl⟩

end

mutual

/-- Negation gives what negating in place makes of the tree, or its error. -/
theorem negate_eq_inPlace (tree : ScopeTree) :
    tree.negate = tree.negateInPlace.1.map fun _ => tree.negateInPlace.2 := by
  match tree with
  | .condition c =>
    rw [negate, negateInPlace, Condition.negateInPlace]
    cases c.negate <;> rfl
  | .scope junction children =>
    rw [negate, negateInPlace, negateAll_eq_inPlace children]
    obtain ⟨result, copy⟩ := negateEach children
    cases result <;> rfl

/-- Negation of several trees gives what negating each in place makes of them, or the error. -/
theorem negateAll_eq_inPlace (trees : List ScopeTree) :
    negateAll trees = (negateEach trees).1.map fun _ => (negateEach trees).2 := by
  match trees with
  | [] => rfl
  | tree :: rest =>
    rw [negateAll, negateEach, negate_eq_inPlace tree, negateAll_eq_inPlace rest]
    obtain ⟨result, left⟩ := negateInPlace tree
    obtain ⟨results, copy⟩ := negateEach rest
    cases result with
    | error error => rfl
    | ok _ => cases results <;> rfl

end

/-- Negation is an atomic involution. It succeeds exactly when no leaf that imposes something
lacks an operator. Then it turns every junction and every operator round, with fields, values and
the order of children as they were, and negating again gives back the tree. Otherwise the tree is
left as it was, and the error describes the first leaf that lacks an operator. -/
theorem negateInPlace_atomic (tree : ScopeTree) :
    (tree.negateInPlace.1 = .ok () ↔ ∀ c ∈ tree.leaves, c.lacksOperator = false) ∧
    (match tree.leaves.find? Condition.lacksOperator with
      | none =>
        tree.negateInPlace = (.ok (), tree.opposite) ∧
          tree.opposite.negateInPlace = (.ok (), tree)
      | some c => tree.negateInPlace = (.error (.noNegation c.describe), tree)) ∧
    tree.opposite.leaves = tree.leaves.map Condition.opposite ∧
    tree.negate = tree.negateInPlace.1.map fun _ => tree.negateInPlace.2 := by
  have htree := tree.negateInPlace_eq
  refine ⟨?_, ?_, tree.leaves_opposite, tree.negate_eq_inPlace⟩
  · rw [htree]
    cases hfirst : tree.firstUnnegatable? with
    | none =>
      have hleaves := List.find?_eq_none.1 hfirst
      simpa using hleaves
    | some c =>
      have hlacks := List.find?_some hfirst
      have hmember := List.mem_of_find?_eq_some hfirst
      constructor
      · intro h
        cases h
      · intro h
        rw [h c hmember] at hlacks
        cases hlacks
  · rw [firstUnnegatable?] at htree
    cases hfirst : tree.leaves.find? Condition.lacksOperator with
    | none =>
      rw [hfirst] at htree
      have hopposite := tree.opposite.negateInPlace_eq
      rw [firstUnnegatable?_opposite hfirst, opposite_opposite] at hopposite
      exact ⟨htree, hopposite⟩
    | some c =>
      rw [hfirst] at htree
      exact htree

/-- Named people, some of them with a role or with orders, and all of them active. -/
def childrenWithOrders : List ScopeTree :=
  [.condition ⟨some (.path "name"), some (.neq, .null)⟩,
    .scope .or [.condition ⟨some (.path "role"), some (.eq, .scalar (.string "admin"))⟩,
      .scope .and [.condition .empty, .condition (.bare (.path "orders/#"))]],
    .condition (.bare (.path "active"))]

/-- A leaf two scopes deep stops the negation when its sibling and the first child have been
negated. The copy of the children is left half negated, and the tree as it was. -/
theorem negateInPlace_atomic_with_orders :
    negateEach childrenWithOrders = (.error (.noNegation "orders/#"),
        .condition ⟨some (.path "name"), some (.eq, .null)⟩ :: childrenWithOrders.tail) ∧
      (ScopeTree.scope .and childrenWithOrders).negateInPlace =
        (.error (.noNegation "orders/#"), .scope .and childrenWithOrders) :=
  ⟨rfl, (negateInPlace_atomic (.scope .and childrenWithOrders)).2.1⟩

end ScopeTree

end ScopeQuery
