import ScopeQuery.Proofs.FilledStatements
import ScopeQuery.Proofs.RegroupedPredicates

/-!
# Empty trees

Empty trees put anywhere into the trees of a selection change nothing but the groups of the
compiled predicates. An empty tree may make a scope of one child a scope of two, which is no
longer dropped, and an outermost "and" a scope among others; so the induction carries what the
predicates of several trees say, and not the predicates themselves.
-/

namespace ScopeQuery

mutual

/-- A tree with empty trees put somewhere among the children of its scopes. -/
inductive ScopeTree.Padded : ScopeTree → ScopeTree → Prop where
  /-- A condition stays what it is. -/
  | condition (c : Condition) : Padded (.condition c) (.condition c)
  /-- The children of a scope have empty trees put among them. -/
  | scope (junction : Junction) {children padded : List ScopeTree}
      (h : PaddedAll children padded) :
      Padded (.scope junction children) (.scope junction padded)

/-- Trees with empty trees put among them, or somewhere in them. -/
inductive ScopeTree.PaddedAll : List ScopeTree → List ScopeTree → Prop where
  /-- Nothing is put behind the last tree. -/
  | nil : PaddedAll [] []
  /-- A tree of the list keeps its place. -/
  | keep {tree padded : ScopeTree} {rest others : List ScopeTree} (h : Padded tree padded)
      (hrest : PaddedAll rest others) : PaddedAll (tree :: rest) (padded :: others)
  /-- An empty tree is put in front of the rest. -/
  | insert {tree : ScopeTree} {rest others : List ScopeTree} (h : tree.isEmpty = true)
      (hrest : PaddedAll rest others) : PaddedAll rest (tree :: others)

end

open ScopeTree

/-! ### Rows -/

/-- An empty condition imposes nothing. -/
theorem Condition.imposes_of_isEmpty {c : Condition} (h : c.isEmpty = true) :
    c.imposes = false :=
  c.imposes_eq_false_iff.2 (.inl h)

namespace Matcher

variable (matcher : Matcher) (entity : String) (row : Row)

/-- An empty tree has no verdict. -/
theorem treeHolds_of_isEmpty {tree : ScopeTree} (h : tree.isEmpty = true) :
    matcher.treeHolds entity row tree = .ok none := by
  rw [treeHolds_eq_none_iff]
  intro c hc
  exact Condition.imposes_of_isEmpty ((isEmpty_iff tree).1 h c hc)

mutual

/-- A padded tree has the verdict of the tree, or its error. -/
theorem treeHolds_padded {tree padded : ScopeTree} (h : Padded tree padded) :
    matcher.treeHolds entity row padded = matcher.treeHolds entity row tree := by
  match h with
  | .condition c => rfl
  | .scope junction hchildren =>
    rw [treeHolds, treeHolds]
    exact treesHold_padded hchildren junction

/-- Padded trees have the verdict of the trees, or their error, under either junction. -/
theorem treesHold_padded {trees padded : List ScopeTree} (h : PaddedAll trees padded)
    (junction : Junction) :
    matcher.treesHold entity row junction padded = matcher.treesHold entity row junction trees := by
  match h with
  | .nil => rfl
  | .keep htree hrest =>
    have hverdict := treeHolds_padded htree
    have hverdicts := treesHold_padded hrest junction
    rw [treesHold, treesHold, hverdict, hverdicts]
  | .insert hempty hrest =>
    have hverdicts := treesHold_padded hrest junction
    rw [treesHold, matcher.treeHolds_of_isEmpty entity row hempty, hverdicts]

end

end Matcher

/-! ### Predicates -/

/-- Compilations that fail with the same error, or whose predicates have the same fragments in
the same order and say the same, one by one. -/
inductive SaysSame : Except CompileError (List Predicate) → Except CompileError (List Predicate) →
    Prop where
  /-- Neither gives predicates. -/
  | failed (error : CompileError) : SaysSame (.error error) (.error error)
  /-- Both say the same with the same fragments. -/
  | made {predicates others : List Predicate}
      (leaves : Predicate.allLeaves others = Predicate.allLeaves predicates)
      (verdicts : ∀ truth, Predicate.verdicts truth others = Predicate.verdicts truth predicates) :
      SaysSame (.ok predicates) (.ok others)

/-- A group says what its junction makes of its parts. -/
theorem Predicate.verdicts_groupPredicate (truth : Predicate → Bool) (junction : Junction)
    (parts : List Predicate) :
    verdicts truth (groupPredicate junction parts).toList =
      (junction.verdict? (verdicts truth parts)).toList := by
  cases parts with
  | nil => rfl
  | cons part rest =>
    rw [groupPredicate, if_neg (by simp), Option.toList_some, verdicts, verdicts, verdict?,
      List.append_nil]

/-- A single predicate says what a group of it says. -/
theorem Predicate.verdicts_group_toList (truth : Predicate → Bool) (junction : Junction)
    (found : Option Predicate) :
    verdicts truth (groupPredicate junction found.toList).toList = verdicts truth found.toList := by
  rw [verdicts_groupPredicate]
  cases found with
  | none => rfl
  | some predicate =>
    rw [Option.toList_some, verdicts, verdicts, List.append_nil]
    cases predicate.verdict? truth with
    | none => rfl
    | some verdict => cases junction <;> simp [Junction.verdict?, Junction.decides]

namespace SaysSame

variable {found other third : Except CompileError (List Predicate)}

/-- A compilation says what it says. -/
theorem refl (found : Except CompileError (List Predicate)) : SaysSame found found := by
  cases found with
  | error error => exact .failed error
  | ok predicates => exact .made rfl fun _ => rfl

/-- Compilations say the same in either order. -/
theorem symm (h : SaysSame found other) : SaysSame other found := by
  cases h with
  | failed error => exact .failed error
  | made leaves verdicts => exact .made leaves.symm fun truth => (verdicts truth).symm

/-- Compilations that say the same as a third one say the same. -/
theorem trans (h : SaysSame found other) (hnext : SaysSame other third) :
    SaysSame found third := by
  cases h with
  | failed error => exact hnext
  | made leaves verdicts =>
    cases hnext with
    | made others further =>
      exact .made (others.trans leaves) fun truth => (further truth).trans (verdicts truth)

/-- Groups of predicates that say the same say the same. -/
theorem group (h : SaysSame found other) (junction : Junction) :
    SaysSame (found.map fun predicates => (groupPredicate junction predicates).toList)
      (other.map fun predicates => (groupPredicate junction predicates).toList) := by
  cases h with
  | failed error => exact .failed error
  | made leaves verdicts =>
    refine .made ?_ fun truth => ?_
    · rw [allLeaves_groupPredicate, allLeaves_groupPredicate, leaves]
    · rw [Predicate.verdicts_groupPredicate, Predicate.verdicts_groupPredicate, verdicts truth]

/-- Predicates in front of others say the same when both parts do. -/
theorem append {rest following : Except CompileError (List Predicate)}
    (h : SaysSame found other) (hrest : SaysSame rest following) :
    SaysSame (found.bind fun predicates => rest.map fun behind => predicates ++ behind)
      (other.bind fun predicates => following.map fun behind => predicates ++ behind) := by
  cases h with
  | failed error => exact .failed error
  | made leaves verdicts =>
    cases hrest with
    | failed error => exact .failed error
    | made restLeaves restVerdicts =>
      refine .made ?_ fun truth => ?_
      · rw [Predicate.allLeaves_append, Predicate.allLeaves_append, leaves, restLeaves]
      · rw [Predicate.verdicts_append, Predicate.verdicts_append, verdicts truth,
          restVerdicts truth]

/-- A group of one predicate says what the predicate says. -/
theorem group_toList (found : Except CompileError (Option Predicate)) (junction : Junction) :
    SaysSame (found.map Option.toList)
      ((found.map Option.toList).map fun predicates =>
        (groupPredicate junction predicates).toList) := by
  cases found with
  | error error => exact .failed error
  | ok predicate =>
    refine .made ?_ fun truth => ?_
    · rw [allLeaves_groupPredicate]
    · rw [Predicate.verdicts_group_toList]

/-- Predicates are regrouped when the conjunctions of them say the same. -/
theorem regrouped
    (h : SaysSame (found.map fun predicates => (groupPredicate .and predicates).toList)
      (other.map fun predicates => (groupPredicate .and predicates).toList)) :
    (∃ error, found = .error error ∧ other = .error error) ∨
      ∃ predicates others, found = .ok predicates ∧ other = .ok others ∧
        Regrouped predicates others := by
  cases found with
  | error error =>
    cases other with
    | error otherError =>
      cases h with
      | failed => exact .inl ⟨error, rfl, rfl⟩
    | ok others => cases h
  | ok predicates =>
    cases other with
    | error error => cases h
    | ok others =>
      cases h with
      | made leaves verdicts =>
        rw [allLeaves_groupPredicate, allLeaves_groupPredicate] at leaves
        refine .inr ⟨predicates, others, rfl, rfl, leaves, fun truth => ?_⟩
        have hverdicts := verdicts truth
        rw [Predicate.verdicts_groupPredicate, Predicate.verdicts_groupPredicate] at hverdicts
        revert hverdicts
        cases Junction.verdict? .and (Predicate.verdicts truth others) <;>
          cases Junction.verdict? .and (Predicate.verdicts truth predicates) <;> simp

end SaysSame

namespace Compiler

variable (compiler : Compiler) (entity : Entity)

/-- A scope says what the group of its children's predicates says, although a single child
becomes a predicate without a group. -/
theorem treePredicate_saysSame_group (junction : Junction) (children : List ScopeTree) :
    SaysSame ((compiler.treePredicate entity (.scope junction children)).map Option.toList)
      ((compiler.treePredicates entity children).map fun predicates =>
        (groupPredicate junction predicates).toList) := by
  by_cases hsingle : ∃ child, children = [child]
  · obtain ⟨child, rfl⟩ := hsingle
    have hchild : compiler.treePredicates entity [child] =
        (compiler.treePredicate entity child).map Option.toList := by
      rw [treePredicates_eq_contributions, contributions_singleton]
    rw [treePredicate_singleton, hchild]
    exact .group_toList (compiler.treePredicate entity child) junction
  · rw [treePredicate_scope compiler entity fun child h => hsingle ⟨child, h⟩]
    cases compiler.treePredicates entity children with
    | error error => exact .failed error
    | ok predicates => exact .refl _

/-- The conjunction of a scope's predicates says what the tree of the scope says, although the
children of an outermost "and" become predicates of their own. -/
theorem scopePredicates_saysSame_tree (scope : Scope) :
    SaysSame ((compiler.treePredicate entity scope.tree).map Option.toList)
      ((compiler.scopePredicates entity scope).map fun predicates =>
        (groupPredicate .and predicates).toList) := by
  by_cases hand : ∃ children, scope.simplify = .scope .and children
  · obtain ⟨children, hchildren⟩ := hand
    rw [scopePredicates_and compiler entity hchildren, ← treePredicate_simplify,
      ← Scope.simplify, hchildren]
    exact compiler.treePredicate_saysSame_group entity .and children
  · rw [scopePredicates_other compiler entity fun children h => hand ⟨children, h⟩]
    exact .group_toList (compiler.treePredicate entity scope.tree) .and

mutual

/-- An empty tree becomes no predicate. -/
theorem treePredicate_of_isEmpty {tree : ScopeTree} (h : tree.isEmpty = true) :
    compiler.treePredicate entity tree = .ok none := by
  match tree with
  | .condition c =>
    rw [treePredicate_condition, conditionPredicate_eq_none_iff]
    exact Condition.imposes_of_isEmpty h
  | .scope junction children =>
    have hchildren := treePredicates_of_allEmpty h
    by_cases hsingle : ∃ child, children = [child]
    · obtain ⟨child, rfl⟩ := hsingle
      rw [treePredicate_singleton]
      rw [isEmpty, allEmpty, allEmpty, Bool.and_true] at h
      exact treePredicate_of_isEmpty h
    · rw [treePredicate_scope compiler entity fun child h => hsingle ⟨child, h⟩, hchildren]
      rfl

/-- Empty trees become no predicates. -/
theorem treePredicates_of_allEmpty {trees : List ScopeTree} (h : allEmpty trees = true) :
    compiler.treePredicates entity trees = .ok [] := by
  match trees with
  | [] => rw [treePredicates_nil]
  | tree :: rest =>
    rw [allEmpty, Bool.and_eq_true] at h
    rw [treePredicates_cons, treePredicate_of_isEmpty h.1, treePredicates_of_allEmpty h.2]
    rfl

end

mutual

/-- A padded tree says what the tree says. -/
theorem treePredicate_padded {tree padded : ScopeTree} (h : Padded tree padded) :
    SaysSame ((compiler.treePredicate entity tree).map Option.toList)
      ((compiler.treePredicate entity padded).map Option.toList) := by
  match h with
  | .condition c => exact .refl _
  | .scope junction hchildren =>
    have hgroups := (treePredicates_padded hchildren).group junction
    have htree := (compiler.treePredicate_saysSame_group entity junction _).trans hgroups
    exact htree.trans (compiler.treePredicate_saysSame_group entity junction _).symm

/-- Padded trees say what the trees say. -/
theorem treePredicates_padded {trees padded : List ScopeTree} (h : PaddedAll trees padded) :
    SaysSame (compiler.treePredicates entity trees) (compiler.treePredicates entity padded) := by
  match h with
  | .nil => exact .refl _
  | .keep htree hrest =>
    have hsame := treePredicate_padded htree
    have hrestSame := treePredicates_padded hrest
    rw [treePredicates_cons, treePredicates_cons]
    exact hsame.append hrestSame
  | .insert hempty hrest =>
    have hrestSame := treePredicates_padded hrest
    rw [treePredicates_cons, compiler.treePredicate_of_isEmpty entity hempty]
    generalize compiler.treePredicates entity trees = found at hrestSame
    generalize compiler.treePredicates entity _ = other at hrestSame ⊢
    cases hrestSame with
    | failed error => exact .failed error
    | made leaves verdicts => exact .made leaves verdicts

end

/-- Padded children leave a scope without predicates for the same error, or regroup them. -/
theorem scopePredicates_padded {children padded : List ScopeTree} (junction : Junction)
    (h : PaddedAll children padded) :
    (∃ error, compiler.scopePredicates entity ⟨junction, children⟩ = .error error ∧
      compiler.scopePredicates entity ⟨junction, padded⟩ = .error error) ∨
      ∃ predicates others,
        compiler.scopePredicates entity ⟨junction, children⟩ = .ok predicates ∧
        compiler.scopePredicates entity ⟨junction, padded⟩ = .ok others ∧
        Regrouped predicates others := by
  have htree := compiler.treePredicate_padded entity (.scope junction h)
  have hchildren := compiler.scopePredicates_saysSame_tree entity ⟨junction, children⟩
  have hpadded := compiler.scopePredicates_saysSame_tree entity ⟨junction, padded⟩
  exact ((hchildren.symm.trans htree).trans hpadded).regrouped

/-- A statement with a selection among the predicates of one of its clauses. -/
def fill (compiler : Compiler) (part : PredicateClause) (statement : Statement)
    (selection : Selection) : Except CompileError Statement :=
  match part with
  | .wheres => compiler.fillWhere statement selection
  | .havings => compiler.fillHaving statement selection

/-- A statement with more predicates in a clause. -/
def withPredicates (part : PredicateClause) (statement : Statement)
    (predicates : List Predicate) : Statement :=
  match part with
  | .wheres => statement.addWheres predicates
  | .havings => statement.addHavings predicates

/-- Filling a statement puts the predicates of the selection into the clause. -/
theorem fill_eq (part : PredicateClause) (statement : Statement) (selection : Selection) :
    compiler.fill part statement selection =
      (compiler.selectionPredicates statement selection).map (withPredicates part statement) := by
  cases part <;> rfl

/-- Regrouped predicates are regrouped behind those that the clause has. -/
theorem regrouped_withPredicates {predicates others : List Predicate}
    (h : Regrouped predicates others) (part : PredicateClause) (statement : Statement) :
    (withPredicates part statement predicates).Regrouped
      (withPredicates part statement others) := by
  have hwheres := Regrouped.refl statement.wheres
  have hhavings := Regrouped.refl statement.havings
  cases part with
  | wheres => exact ⟨rfl, hwheres.append h, hhavings⟩
  | havings => exact ⟨rfl, hwheres, hhavings.append h⟩

/-- A statement filled with padded children is refused with the same error, or it has its
predicates regrouped. -/
theorem fill_padded {children padded : List ScopeTree} (h : PaddedAll children padded)
    (part : PredicateClause) (statement : Statement) (name : String) :
    (∃ error, compiler.fill part statement ⟨name, children⟩ = .error error ∧
      compiler.fill part statement ⟨name, padded⟩ = .error error) ∨
      ∃ filled other, compiler.fill part statement ⟨name, children⟩ = .ok filled ∧
        compiler.fill part statement ⟨name, padded⟩ = .ok other ∧
        filled.Regrouped other := by
  rw [fill_eq, fill_eq, selectionPredicates, selectionPredicates, Selection.scope,
    Selection.scope]
  obtain ⟨error, hchildren, hpadded⟩ | ⟨predicates, others, hchildren, hpadded, hregrouped⟩ :=
    compiler.scopePredicates_padded (.root name) .and h
  · rw [hchildren, hpadded]
    exact .inl ⟨inStatement statement error, rfl, rfl⟩
  · rw [hchildren, hpadded]
    exact .inr ⟨_, _, rfl, rfl, regrouped_withPredicates hregrouped part statement⟩

/-- The parameters of a query are those of the statement that reads the selected rows. -/
theorem compile_params (selection : Selection) :
    (compiler.compile selection).map (·.params) =
      match compiler.select selection with
      | .error error => .error error
      | .ok statement =>
        match statement.render.map (·.params) with
        | .ok params => .ok params
        | .error error => .error (.query error) := by
  rw [compile]
  cases compiler.select selection with
  | error error => rfl
  | ok statement =>
    dsimp only
    cases statement.render <;> rfl

/-- A query over padded children binds the same parameters, or fails with the same error. -/
theorem compile_params_padded {children padded : List ScopeTree} (h : PaddedAll children padded)
    (name : String) :
    (compiler.compile ⟨name, padded⟩).map (·.params) =
      (compiler.compile ⟨name, children⟩).map (·.params) := by
  rw [compile_params, compile_params, select, select]
  cases (Statement.empty compiler.dialect).addSource .table none (.text name) with
  | error error => rfl
  | ok statement =>
    dsimp only
    obtain ⟨error, hchildren, hpadded⟩ | ⟨filled, other, hchildren, hpadded, hregrouped⟩ :=
      compiler.fill_padded h .wheres statement name
    · rw [fill] at hchildren hpadded
      rw [hchildren, hpadded]
    · rw [fill] at hchildren hpadded
      rw [hchildren, hpadded]
      dsimp only
      rw [hregrouped.render_params]

end Compiler

/-- Empty trees are neutral, wherever they are put into a selection. The matcher gives the same
verdict on every row, or the same error. The compiler refuses both selections with the same
error; or it gives statements whose predicates have the same fragments in the same order and
are equivalent, so that they bind the same parameters and lack the text of the clause
together. -/
theorem padding_is_neutral {children padded : List ScopeTree} (h : PaddedAll children padded)
    (name : String) :
    (∀ (matcher : Matcher) (row : Row),
      matcher.selectionMatches row ⟨name, padded⟩ =
        matcher.selectionMatches row ⟨name, children⟩) ∧
    (∀ (compiler : Compiler) (part : PredicateClause) (statement : Statement),
      (∃ error, compiler.fill part statement ⟨name, children⟩ = .error error ∧
        compiler.fill part statement ⟨name, padded⟩ = .error error) ∨
      ∃ filled other, compiler.fill part statement ⟨name, children⟩ = .ok filled ∧
        compiler.fill part statement ⟨name, padded⟩ = .ok other ∧
        filled.Regrouped other ∧
        other.render.map (·.params) = filled.render.map (·.params) ∧
        ∀ session, other.clauseText part.clause session = .ok "" ↔
          filled.clauseText part.clause session = .ok "") ∧
    ∀ compiler : Compiler,
      (compiler.compile ⟨name, padded⟩).map (·.params) =
        (compiler.compile ⟨name, children⟩).map (·.params) := by
  refine ⟨fun matcher row => ?_, fun compiler part statement => ?_, fun compiler => ?_⟩
  · have hverdict := matcher.treesHold_padded name row h .and
    rw [Matcher.selectionMatches, Matcher.selectionMatches, Matcher.scopeMatches,
      Matcher.scopeMatches]
    dsimp only [Selection.scope]
    rw [hverdict]
  · obtain hrefused | ⟨filled, other, hchildren, hpadded, hregrouped⟩ :=
      compiler.fill_padded h part statement name
    · exact .inl hrefused
    · exact .inr ⟨filled, other, hchildren, hpadded, hregrouped, hregrouped.render_params,
        hregrouped.clauseText_eq_empty_iff part⟩
  · exact compiler.compile_params_padded h name

/-- Users with a name and some role, in scopes of one child each. -/
def namedChildren : List ScopeTree :=
  [.scope .or [.scope .and
    [.condition ⟨some (.path "name"), some (.eq, .scalar (.string "ann"))⟩,
      .condition ⟨some (.path "role"), some (.neq, .null)⟩]]]

/-- The same users, with empty trees at every depth. -/
def paddedChildren : List ScopeTree :=
  [.scope .or [.scope .and
      [.condition ⟨some (.path "name"), some (.eq, .scalar (.string "ann"))⟩,
        .scope .or [.scope .and []],
        .condition ⟨some (.path "role"), some (.neq, .null)⟩],
      .condition .empty],
    .scope .and [.condition .empty]]

/-- The scopes of one child are kept once empty trees stand beside the child, so that two
predicates become a group in a group; the parameters are those of the two predicates. -/
theorem padding_is_neutral_for_named :
    PaddedAll namedChildren paddedChildren ∧
      plainMatcher.selectionMatches [("name", .string "ann")] ⟨"user", paddedChildren⟩ =
        .ok false ∧
      ∃ filled other,
        plainCompiler.fillWhere (.empty .generic) ⟨"user", namedChildren⟩ = .ok filled ∧
        plainCompiler.fillWhere (.empty .generic) ⟨"user", paddedChildren⟩ = .ok other ∧
        filled.wheres = [.comparison (.text "name") none (.literal (.string "ann")),
          .comparison (.text "role") (some .neq) (.literal .null)] ∧
        other.wheres = [.group .or [.group .and filled.wheres]] ∧
        other.render.map (·.params) = filled.render.map (·.params) := by
  have hpadded : PaddedAll namedChildren paddedChildren :=
    .keep (.scope .or (.keep (.scope .and (.keep (.condition _) (.insert rfl
      (.keep (.condition _) .nil)))) (.insert rfl .nil))) (.insert rfl .nil)
  obtain ⟨hrows, hstatements, -⟩ := padding_is_neutral hpadded "user"
  have hname : plainCompiler.conditionPredicate (.root "user")
      ⟨some (.path "name"), some (.eq, .scalar (.string "ann"))⟩ =
        .ok (some (.comparison (.text "name") none (.literal (.string "ann")))) := by
    rw [Compiler.conditionPredicate_of_resolved rfl, Compiler.resolvedPredicate_of_field rfl rfl]
    rfl
  have hrole : plainCompiler.conditionPredicate (.root "user")
      ⟨some (.path "role"), some (.neq, .null)⟩ =
        .ok (some (.comparison (.text "role") (some .neq) (.literal .null))) := by
    rw [Compiler.conditionPredicate_of_resolved rfl, Compiler.resolvedPredicate_of_field rfl rfl]
    rfl
  have hempty : plainCompiler.conditionPredicate (.root "user") .empty = .ok none :=
    Compiler.conditionPredicate_of_nothing rfl
  have hnamed : plainCompiler.fill .wheres (.empty .generic) ⟨"user", namedChildren⟩ =
      .ok ((Statement.empty .generic).addWheres
        [.comparison (.text "name") none (.literal (.string "ann")),
          .comparison (.text "role") (some .neq) (.literal .null)]) := by
    have hsimple : Scope.simplify ⟨.and, namedChildren⟩ = .scope .and
        [.condition ⟨some (.path "name"), some (.eq, .scalar (.string "ann"))⟩,
          .condition ⟨some (.path "role"), some (.neq, .null)⟩] := rfl
    rw [Compiler.fill, Compiler.fillWhere, Compiler.selectionPredicates, Selection.scope,
      Compiler.scopePredicates_and _ _ hsimple]
    simp only [Compiler.treePredicates_nil, Compiler.treePredicates_cons,
      Compiler.treePredicate_condition, hname, hrole]
    rfl
  have hgrouped : plainCompiler.fill .wheres (.empty .generic) ⟨"user", paddedChildren⟩ =
      .ok ((Statement.empty .generic).addWheres [.group .or [.group .and
        [.comparison (.text "name") none (.literal (.string "ann")),
          .comparison (.text "role") (some .neq) (.literal .null)]]]) := by
    have hsimple : Scope.simplify ⟨.and, paddedChildren⟩ = .scope .and paddedChildren := rfl
    rw [Compiler.fill, Compiler.fillWhere, Compiler.selectionPredicates, Selection.scope,
      Compiler.scopePredicates_and _ _ hsimple]
    simp only [paddedChildren, Compiler.treePredicates_nil, Compiler.treePredicates_cons,
      Compiler.treePredicate_condition,
      Compiler.treePredicate_scope _ _ (show ∀ child, [_, _] ≠ [child] by simp),
      Compiler.treePredicate_scope _ _ (show ∀ child, [_, _, _] ≠ [child] by simp),
      Compiler.treePredicate_scope _ _ (show ∀ child, [] ≠ [child] by simp),
      Compiler.treePredicate_singleton, hname, hrole, hempty]
    rfl
  refine ⟨hpadded, (hrows plainMatcher _).trans rfl, _, _, hnamed, hgrouped, rfl, rfl, ?_⟩
  obtain ⟨error, hrefused, -⟩ | ⟨filled, other, hfilled, hother, -, hparams, -⟩ :=
    hstatements plainCompiler .wheres (.empty .generic)
  · rw [hnamed] at hrefused
    cases hrefused
  · obtain rfl := Except.ok.inj (hfilled.symm.trans hnamed)
    obtain rfl := Except.ok.inj (hother.symm.trans hgrouped)
    exact hparams

end ScopeQuery
