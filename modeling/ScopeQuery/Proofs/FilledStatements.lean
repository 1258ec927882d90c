import ScopeQuery.Compile.Filling
import ScopeQuery.Proofs.HopPaths
import ScopeQuery.Proofs.LeafPredicates
import ScopeQuery.Proofs.PredicateClauses
import ScopeQuery.Proofs.SimplifiedTrees

/-!
# Filled statements

A statement is filled with the whole scope or with none of it. What is added and whether
anything is added depend on the conditions of the scope alone, taken depth first: their
predicates are the fragments of the new predicates in the same order, and the first of
them that has no predicate is the error. The induction follows the scope, because a scope
around a single child is compiled as the child.
-/

namespace ScopeQuery

/-- The predicates of the items that become any, in order. The first item that fails is the
error. -/
def contributions {α : Type} (predicate? : α → Except CompileError (Option Predicate))
    (items : List α) : Except CompileError (List Predicate) :=
  (items.mapM predicate?).map (List.filterMap id)

section Contributions

variable {α : Type} (predicate? : α → Except CompileError (Option Predicate))

/-- The predicate of the first item stands before those of the others. -/
theorem contributions_cons (item : α) (rest : List α) :
    contributions predicate? (item :: rest) =
      match predicate? item with
      | .error error => .error error
      | .ok predicate =>
        match contributions predicate? rest with
        | .ok predicates => .ok (predicate.toList ++ predicates)
        | .error error => .error error := by
  rw [contributions, contributions, List.mapM_cons]
  cases predicate? item with
  | error error => rfl
  | ok predicate =>
    cases rest.mapM predicate? with
    | error error => rfl
    | ok predicates => cases predicate <;> rfl

/-- The predicate of a single item. -/
theorem contributions_singleton (item : α) :
    contributions predicate? [item] = (predicate? item).map Option.toList := by
  rw [contributions_cons]
  cases predicate? item with
  | error error => rfl
  | ok predicate => cases predicate <;> rfl

/-- The predicates of some items stand before those of the items behind them. -/
theorem contributions_append (items rest : List α) :
    contributions predicate? (items ++ rest) =
      match contributions predicate? items with
      | .error error => .error error
      | .ok predicates =>
        match contributions predicate? rest with
        | .ok others => .ok (predicates ++ others)
        | .error error => .error error := by
  rw [contributions, contributions, contributions, List.mapM_append]
  cases items.mapM predicate? with
  | error error => rfl
  | ok predicates =>
    cases rest.mapM predicate? with
    | error error => rfl
    | ok others => exact congrArg Except.ok List.filterMap_append

end Contributions

namespace Predicate

/-- A predicate that is no group is its own fragment. -/
theorem leaves_of_not_group {predicate : Predicate} (h : predicate.isGroup = false) :
    predicate.leaves = [predicate] := by
  cases predicate with
  | comparison field operator value => rfl
  | fragment argument => rfl
  | group junction parts => simp [isGroup] at h

end Predicate

/-- The fragments of a group are those of its parts. -/
theorem allLeaves_groupPredicate (junction : Junction) (parts : List Predicate) :
    Predicate.allLeaves (groupPredicate junction parts).toList = Predicate.allLeaves parts := by
  cases parts with
  | nil => rfl
  | cons part rest =>
    simp [groupPredicate, Predicate.allLeaves, Predicate.leaves]

/-- The trees that become predicates of their own: the children of an outermost "and", once
the scopes around a single child are dropped, or else the one tree that is left. -/
def Scope.parts (scope : Scope) : List ScopeTree :=
  match scope.simplify with
  | .scope .and children => children
  | tree => [tree]

namespace Compiler

section Order

variable {R : Type} [Relationships R] (compiler : Compiler R) (entity : Entity)

/-- The predicate of a condition is its own fragment. -/
theorem allLeaves_conditionPredicate (condition : Condition) :
    (compiler.conditionPredicate entity condition).map
        (fun predicate => Predicate.allLeaves predicate.toList) =
      (compiler.conditionPredicate entity condition).map Option.toList := by
  cases hcondition : compiler.conditionPredicate entity condition with
  | error error => rfl
  | ok predicate =>
    cases predicate with
    | none => rfl
    | some predicate =>
      have hleaves := Predicate.leaves_of_not_group (conditionPredicate_not_group hcondition)
      simp [Except.map, Predicate.allLeaves, hleaves]

/-- The predicates of several trees are those of each, in order. -/
theorem treePredicates_eq_contributions (trees : List ScopeTree) :
    compiler.treePredicates entity trees =
      contributions (compiler.treePredicate entity) trees := by
  induction trees with
  | nil =>
    rw [treePredicates_nil]
    rfl
  | cons tree rest ih =>
    rw [treePredicates_cons, ih, contributions_cons]
    cases compiler.treePredicate entity tree with
    | error error => rfl
    | ok predicate => cases contributions (compiler.treePredicate entity) rest <;> rfl

mutual

/-- The fragments of a tree's predicate are the predicates of its conditions, and it fails
where the first of these fails. -/
theorem allLeaves_treePredicate (tree : ScopeTree) :
    (compiler.treePredicate entity tree).map
        (fun predicate => Predicate.allLeaves predicate.toList) =
      contributions (compiler.conditionPredicate entity) tree.leaves := by
  match tree with
  | .condition condition =>
    rw [treePredicate_condition, allLeaves_conditionPredicate, ScopeTree.leaves,
      contributions_singleton]
  | .scope junction children =>
    have hchildren := allLeaves_treePredicates children
    rw [ScopeTree.leaves, ← hchildren]
    by_cases hsingle : ∃ child, children = [child]
    · obtain ⟨child, rfl⟩ := hsingle
      rw [treePredicate_singleton, treePredicates_eq_contributions, contributions_singleton]
      cases compiler.treePredicate entity child <;> rfl
    · rw [treePredicate_scope compiler entity fun child h => hsingle ⟨child, h⟩]
      cases compiler.treePredicates entity children with
      | error error => rfl
      | ok predicates => exact congrArg Except.ok (allLeaves_groupPredicate junction predicates)

/-- The fragments of several trees' predicates are the predicates of their conditions, and
they fail where the first of these fails. -/
theorem allLeaves_treePredicates (trees : List ScopeTree) :
    (compiler.treePredicates entity trees).map Predicate.allLeaves =
      contributions (compiler.conditionPredicate entity) (ScopeTree.allLeaves trees) := by
  match trees with
  | [] =>
    rw [treePredicates_nil]
    rfl
  | tree :: rest =>
    rw [ScopeTree.allLeaves, contributions_append, ← allLeaves_treePredicate tree,
      ← allLeaves_treePredicates rest, treePredicates_cons]
    cases compiler.treePredicate entity tree with
    | error error => rfl
    | ok predicate =>
      cases compiler.treePredicates entity rest with
      | error error => rfl
      | ok predicates => exact congrArg Except.ok (Predicate.allLeaves_append _ _)

end

/-- The predicates of a scope are those of its parts, in order. -/
theorem scopePredicates_eq_contributions (scope : Scope) :
    compiler.scopePredicates entity scope =
      contributions (compiler.treePredicate entity) scope.parts := by
  by_cases hand : ∃ children, scope.simplify = .scope .and children
  · obtain ⟨children, hchildren⟩ := hand
    rw [scopePredicates_and compiler entity hchildren, treePredicates_eq_contributions,
      Scope.parts, hchildren]
  · have hother : ∀ children, scope.simplify ≠ .scope .and children :=
      fun children h => hand ⟨children, h⟩
    have hparts : scope.parts = [scope.simplify] := by
      rw [Scope.parts]
      split
      · rename_i children hchildren
        exact absurd hchildren (hother children)
      · rfl
    rw [scopePredicates_other compiler entity hother, hparts, contributions_singleton,
      Scope.simplify, treePredicate_simplify]

/-- The fragments of a scope's predicates are the predicates of its conditions, and it fails
where the first of these fails. -/
theorem allLeaves_scopePredicates (scope : Scope) :
    (compiler.scopePredicates entity scope).map Predicate.allLeaves =
      contributions (compiler.conditionPredicate entity) scope.tree.leaves := by
  by_cases hand : ∃ children, scope.simplify = .scope .and children
  · obtain ⟨children, hchildren⟩ := hand
    have hleaves : ScopeTree.allLeaves children = scope.tree.leaves := by
      rw [← ScopeTree.leaves_simplify, ← Scope.simplify, hchildren, ScopeTree.leaves]
    rw [scopePredicates_and compiler entity hchildren, allLeaves_treePredicates, hleaves]
  · rw [scopePredicates_other compiler entity fun children h => hand ⟨children, h⟩,
      ← allLeaves_treePredicate]
    cases compiler.treePredicate entity scope.tree <;> rfl

end Order

/-- Filling a statement in place is all or nothing, whatever it holds already, whatever the
codecs do and wherever the relationships lead. When a
condition of the selection has no predicate, the first such condition is the error and the
statement is what it was. Otherwise nothing but the clause that is filled changes: behind its
old predicates stand those of the parts of the selection that impose anything, in order, and
their fragments are the predicates of all conditions, depth first. -/
theorem fill_all_or_nothing {R : Type} [Relationships R] (compiler : Compiler R)
    (statement : Statement) (selection : Selection) :
    match contributions (compiler.conditionPredicate (.root selection.entity))
        selection.scope.tree.leaves with
    | .error error =>
      (compiler.fillWhereInPlace selection).on statement =
        (.error (inStatement statement error), statement) ∧
      (compiler.fillHavingInPlace selection).on statement =
        (.error (inStatement statement error), statement)
    | .ok fragments => ∃ added,
      contributions (compiler.treePredicate (.root selection.entity)) selection.scope.parts =
        .ok added ∧
      Predicate.allLeaves added = fragments ∧
      (compiler.fillWhereInPlace selection).on statement =
        (.ok (), { statement with wheres := statement.wheres ++ added }) ∧
      (compiler.fillHavingInPlace selection).on statement =
        (.ok (), { statement with havings := statement.havings ++ added }) := by
  have hleaves := compiler.allLeaves_scopePredicates (.root selection.entity) selection.scope
  have hparts :=
    compiler.scopePredicates_eq_contributions (.root selection.entity) selection.scope
  rw [fillWhereInPlace_on, fillHavingInPlace_on, fillWhere, fillHaving, selectionPredicates,
    ← hleaves]
  cases hfound : compiler.scopePredicates (.root selection.entity) selection.scope with
  | error error => exact ⟨rfl, rfl⟩
  | ok added => exact ⟨added, by rw [← hparts, hfound], rfl, rfl, rfl⟩

end Compiler

section GuardedLinks

/-- The number of hops of a path. -/
def hopCount (path : String) : Nat := path.toList.count hopSeparator

/-- The path after the first hop has fewer hops. -/
theorem hopCount_of_splitHop? {path hop rest : String}
    (h : splitHop? path = some (hop, rest)) : hopCount rest < hopCount path := by
  unfold splitHop? at h
  split at h
  · rename_i before after hsplit
    obtain ⟨-, rfl⟩ : String.ofList before = hop ∧ String.ofList after = rest := by simpa using h
    rw [hopCount, hopCount, splitFirst?_eq_some hsplit, String.toList_ofList, List.count_append,
      List.count_cons_self]
    omega
  · cases h

/-- Links whose rows have to satisfy a condition of their own, wherever a hop leads. -/
structure GuardedLinks where
  /-- The links. -/
  links : Links
  /-- What all related rows have to satisfy. -/
  guard : Condition
  /-- The guard itself leads over no hop. -/
  own : guard.path?.all (hopCount · = 0)

/-- Over guarded links a path has fewer hops with every hop, and the guard has none. -/
instance : Relationships GuardedLinks where
  follow guarded parent hop :=
    (guarded.links.follow parent hop).map fun related => related.add (.condition guarded.guard)
  ends guarded := leadsTo_ends hopCount fun hsplit hfollow => by
    obtain ⟨rows, hrows, rfl⟩ := exists_ok_of_map hfollow
    have hrest := hopCount_of_splitHop? hsplit
    have hchildren : (rows.add (.condition guarded.guard)).selection.children =
        [.condition guarded.guard] := by
      rw [RelatedRows.add, Selection.add, Links.follow_children hrows, List.nil_append]
    refine ⟨hrest, fun other hother => ?_⟩
    rw [hchildren] at hother
    obtain ⟨condition, hcondition, hpath⟩ := List.mem_filterMap.1 hother
    obtain rfl := List.mem_singleton.1 hcondition
    have hown : hopCount other = 0 := by simpa [hpath] using guarded.own
    omega

end GuardedLinks

/-- A statement that deletes. -/
def deletion : Statement := { Statement.empty .generic with givenMode := some .delete }

/-- Users by their name and by the title of a post. -/
def postedSelection : Selection where
  entity := "user"
  children :=
    [.condition ⟨some (.path "name"), some (.eq, .scalar (.string "ann"))⟩,
      .condition ⟨some (.path "posts/title"), none⟩]

/-- The tenant of a row, which turns out to be an object. -/
def tenantGuard : Condition :=
  ⟨some (.path "tenant"), some (.eq, .computed fun _ => some (.object []))⟩

/-- A compiler that follows the posts of users and asks each for its tenant. -/
def guardedCompiler : Compiler GuardedLinks :=
  ⟨.generic, .passthrough,
    some ⟨Links.empty.insert "user" "posts" ⟨"post", "author", "id"⟩, tenantGuard, by decide⟩⟩

/-- A deletion is left as it is when the rows that a hop leads to bring a condition that fails,
although the condition in front of it has its predicate. -/
theorem Compiler.fill_refuses_guarded_hop :
    (guardedCompiler.fillWhereInPlace postedSelection).on deletion =
        (.error (inStatement deletion (.query (.unfitValue .objectValue))), deletion) ∧
      (guardedCompiler.fillHavingInPlace postedSelection).on deletion =
        (.error (inStatement deletion (.query (.unfitValue .objectValue))), deletion) := by
  have hname : guardedCompiler.conditionPredicate (.root "user")
      ⟨some (.path "name"), some (.eq, .scalar (.string "ann"))⟩ =
        .ok (some (.comparison (.text "name") none (.literal (.string "ann")))) := by
    rw [conditionPredicate_of_resolved rfl, resolvedPredicate_of_field rfl rfl]
    rfl
  have htitle : guardedCompiler.conditionPredicate (.root "user")
      ⟨some (.path "posts/title"), none⟩ = .error (.query (.unfitValue .objectValue)) := by
    have hsplit : splitHop? "posts/title" = some ("posts", "title") := by decide
    have hfollow : guardedCompiler.follow (.root "user") "posts" =
        .ok ((Link.rows ⟨"post", "author", "id"⟩ (.root "user") "posts").add
          (.condition tenantGuard)) := rfl
    have hguard : tenantGuard.resolved = .error (.unfitValue .objectValue) := rfl
    rw [conditionPredicate_of_resolved rfl, resolvedPredicate_of_hop rfl hsplit,
      hopPredicate_of_exists hfollow (by decide), existsFragment_eq, scopePredicates_and _ _ rfl,
      treePredicates_cons, treePredicate_condition, conditionPredicate_of_error hguard]
    rfl
  have hfound : contributions (guardedCompiler.conditionPredicate (.root postedSelection.entity))
      postedSelection.scope.tree.leaves = .error (.query (.unfitValue .objectValue)) := by
    simp only [postedSelection, Selection.scope, Scope.tree, ScopeTree.leaves,
      ScopeTree.allLeaves, List.cons_append, List.nil_append, contributions_cons, hname, htitle]
  have hfilled := fill_all_or_nothing guardedCompiler deletion postedSelection
  rw [hfound] at hfilled
  exact hfilled

end ScopeQuery
