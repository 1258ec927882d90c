import ScopeQuery.Proofs.ImposedConditions
import ScopeQuery.Proofs.LeafPredicates
import ScopeQuery.Proofs.SimplifiedTrees
import ScopeQuery.Proofs.TracedPredicates

/-!
# The statement and the matcher agree

Filling a statement and matching a row walk the same selection in two ways. The
predicates of a filled statement trace back to the conditions that impose anything,
each once and in order; reading every predicate as the matcher reads its condition
makes all of them together true exactly for the rows the matcher selects.
-/

namespace ScopeQuery

open TracedPredicate

/-- Whether a row satisfies a condition that imposes anything. -/
def Matcher.satisfied (matcher : Matcher) (entity : String) (row : Row) (condition : Condition) :
    Bool :=
  match matcher.conditionHolds entity row condition with
  | .ok (some result) => result
  | _ => false

/-- Traced predicates account for conditions when they come from those that impose
anything, in order, each of them is what its condition compiles to, and no group is
without parts. -/
structure Accounts (compiler : Compiler) (entity : Entity) (given : List Condition)
    (parts : List TracedPredicate) : Prop where
  /-- The conditions that impose anything, in order. -/
  origins : conditions parts = given.filter Condition.imposes
  /-- What each of them compiles to. -/
  compiled : ∀ leaf ∈ allLeaves parts,
    compiler.conditionPredicate entity leaf.1 = .ok (some leaf.2)
  /-- Every part comes from some condition. -/
  inhabited : ∀ part ∈ parts, part.leaves ≠ []

namespace Accounts

variable {compiler : Compiler} {entity : Entity}

/-- Nothing accounts for no conditions. -/
theorem nil : Accounts compiler entity [] [] where
  origins := rfl
  compiled := by simp [allLeaves]
  inhabited := by simp

/-- Accounts of two halves account for the whole. -/
theorem append {given further : List Condition} {parts rest : List TracedPredicate}
    (hparts : Accounts compiler entity given parts)
    (hrest : Accounts compiler entity further rest) :
    Accounts compiler entity (given ++ further) (parts ++ rest) where
  origins := by
    have hleft := hparts.origins
    have hright := hrest.origins
    unfold conditions at *
    rw [allLeaves_append, List.map_append, hleft, hright, List.filter_append]
  compiled := by
    intro leaf hleaf
    rw [allLeaves_append] at hleaf
    cases List.mem_append.1 hleaf with
    | inl hleft => exact hparts.compiled leaf hleft
    | inr hright => exact hrest.compiled leaf hright
  inhabited := by
    intro part hpart
    cases List.mem_append.1 hpart with
    | inl hleft => exact hparts.inhabited part hleft
    | inr hright => exact hrest.inhabited part hright

/-- Grouping the parts changes nothing, if there are any. -/
theorem group {given : List Condition} {part : TracedPredicate} {parts : List TracedPredicate}
    (h : Accounts compiler entity given (part :: parts)) (junction : Junction) :
    Accounts compiler entity given [.group junction (part :: parts)] where
  origins := by
    have horigins := h.origins
    unfold conditions at *
    rw [allLeaves_singleton, leaves, horigins]
  compiled := by
    intro leaf hleaf
    rw [allLeaves_singleton, leaves] at hleaf
    exact h.compiled leaf hleaf
  inhabited := by
    have hpart := h.inhabited part (by simp)
    simp [leaves, allLeaves, hpart]

/-- What a condition compiles to accounts for it. -/
theorem condition {condition : Condition} {found : Option Predicate}
    (h : compiler.conditionPredicate entity condition = .ok found) :
    Accounts compiler entity [condition] (found.map (.leaf condition)).toList := by
  cases found with
  | none =>
    have hfree := (compiler.conditionPredicate_eq_none_iff entity condition).1 h
    exact ⟨by simp [conditions, allLeaves, hfree], by simp [allLeaves], by simp⟩
  | some predicate =>
    have himposes := Compiler.imposes_of_conditionPredicate h
    exact ⟨by simp [conditions, allLeaves, leaves, himposes],
      by simp [allLeaves, leaves, h], by simp [leaves]⟩

/-- There are no parts exactly when every condition is empty or declines. -/
theorem parts_eq_nil_iff {given : List Condition} {parts : List TracedPredicate}
    (h : Accounts compiler entity given parts) :
    parts = [] ↔ ∀ c ∈ given, c.isEmpty = true ∨ c.declines = true := by
  have hconditions : parts = [] ↔ conditions parts = [] := by
    cases parts with
    | nil => simp [conditions, allLeaves]
    | cons part rest =>
      have hpart := h.inhabited part (by simp)
      simp [conditions, allLeaves, hpart]
  rw [hconditions, h.origins, List.filter_eq_nil_iff]
  simp only [Bool.not_eq_true, Condition.imposes_eq_false_iff]

end Accounts

/-- The verdict on joined trees, given those on the trees that impose anything. -/
def Junction.verdict? (junction : Junction) (verdicts : List Bool) : Option Bool :=
  if verdicts.isEmpty then none else some (junction.decides verdicts)

/-- What is left of the verdicts on some trees may be joined before the others. -/
theorem Junction.verdict?_append (junction : Junction) (verdicts rest : List Bool) :
    junction.verdict? (verdicts ++ (junction.verdict? rest).toList) =
      junction.verdict? (verdicts ++ rest) := by
  cases rest with
  | nil => rfl
  | cons verdict rest =>
    cases junction <;> simp [verdict?, decides]

/-- The verdict on trees one after another joins those on both parts. -/
theorem Matcher.treesHold_append (matcher : Matcher) {name : String} {row : Row}
    {junction : Junction} {trees rest : List ScopeTree} {verdict further : Option Bool}
    (htrees : matcher.treesHold name row junction trees = .ok verdict)
    (hrest : matcher.treesHold name row junction rest = .ok further) :
    matcher.treesHold name row junction (trees ++ rest) =
      .ok (junction.verdict? (verdict.toList ++ further.toList)) := by
  induction trees generalizing verdict with
  | nil =>
    rw [treesHold] at htrees
    cases htrees
    cases further <;> cases junction <;> simp [hrest, Junction.verdict?, Junction.decides]
  | cons tree trees ih =>
    rw [treesHold] at htrees
    rw [List.cons_append, treesHold]
    cases htree : matcher.treeHolds name row tree with
    | error error => simp [htree] at htrees
    | ok first =>
      cases first with
      | none =>
        simp only [htree] at htrees
        exact ih htrees
      | some result =>
        simp only [htree] at htrees
        dsimp only
        -- Once a verdict settles the trees, those after it are asked for nothing.
        split at htrees
        · rename_i hsettled
          cases htrees
          rw [if_pos hsettled]
          simp [Junction.verdict?, Junction.decides_cons, hsettled]
        · rename_i hopen
          rw [if_neg hopen]
          cases htail : matcher.treesHold name row junction trees with
          | error error => simp [htail] at htrees
          | ok later =>
            rw [ih htail]
            rw [htail] at htrees
            cases later with
            | none =>
              cases htrees
              cases further <;> cases junction <;> cases result <;>
                simp_all [Junction.verdict?, Junction.decides]
            | some later =>
              cases htrees
              simp [Junction.verdict?]

/-- The verdict of a condition the row can decide is the truth its predicate gets. -/
theorem Matcher.conditionHolds_eq_satisfied (matcher : Matcher) {compiler : Compiler}
    {entity : Entity} {name : String} {row : Row} {condition : Condition}
    {found : Option Predicate} {verdict : Option Bool}
    (hfound : compiler.conditionPredicate entity condition = .ok found)
    (hverdict : matcher.conditionHolds name row condition = .ok verdict) :
    matcher.conditionHolds name row condition =
      .ok ((found.map (.leaf condition)).map (holds (matcher.satisfied name row))) := by
  cases found with
  | none =>
    have hfree := (compiler.conditionPredicate_eq_none_iff entity condition).1 hfound
    exact (matcher.conditionHolds_eq_none_iff name row condition).2 hfree
  | some predicate =>
    cases verdict with
    | none =>
      have hfree := (matcher.conditionHolds_eq_none_iff name row condition).1 hverdict
      rw [Compiler.imposes_of_conditionPredicate hfound] at hfree
      simp at hfree
    | some result => simp [holds, Matcher.satisfied, hverdict]

/-- The verdict of a tree and of the trees after it, joined. -/
theorem Matcher.treesHold_cons (matcher : Matcher) {name : String} {row : Row}
    {junction : Junction} {tree : ScopeTree} {rest : List ScopeTree} {part : Option TracedPredicate}
    {parts : List TracedPredicate} {truth : Condition → Bool}
    (htree : matcher.treeHolds name row tree = .ok (part.map (holds truth)))
    (hrest : matcher.treesHold name row junction rest =
      .ok (junction.verdict? (verdicts truth parts))) :
    matcher.treesHold name row junction (tree :: rest) =
      .ok (junction.verdict? (verdicts truth (part.toList ++ parts))) := by
  have hjoined := matcher.treesHold_append ((matcher.treesHold_singleton ..).trans htree) hrest
  rw [List.singleton_append, Junction.verdict?_append] at hjoined
  rw [hjoined]
  cases part <;> rfl

section Agreement

variable (compiler : Compiler) (matcher : Matcher) (entity : Entity) (name : String) (row : Row)

mutual

/-- A compiled tree traces back to its conditions and is as true as the matcher
finds the tree. -/
theorem treePredicate_agrees (tree : ScopeTree) (found : Option Predicate)
    (hfound : compiler.treePredicate entity tree = .ok found)
    (hleaves : ∀ c ∈ tree.leaves, ∃ verdict, matcher.conditionHolds name row c = .ok verdict) :
    ∃ part : Option TracedPredicate, found = part.map predicate ∧
      Accounts compiler entity tree.leaves part.toList ∧
      matcher.treeHolds name row tree = .ok (part.map (holds (matcher.satisfied name row))) := by
  match tree with
  | .condition c =>
    rw [Compiler.treePredicate_condition] at hfound
    obtain ⟨verdict, hverdict⟩ := hleaves c (by simp [ScopeTree.leaves])
    refine ⟨found.map (.leaf c), ?_, Accounts.condition hfound, ?_⟩
    · cases found <;> rfl
    · rw [Matcher.treeHolds]
      exact matcher.conditionHolds_eq_satisfied hfound hverdict
  | .scope junction [child] =>
    -- The compiler drops this scope and the matcher walks through it, so both are at the child.
    rw [Compiler.treePredicate_singleton] at hfound
    rw [ScopeTree.leaves, ScopeTree.allLeaves, ScopeTree.allLeaves, List.append_nil] at *
    rw [Matcher.treeHolds, Matcher.treesHold_singleton]
    exact treePredicate_agrees child found hfound hleaves
  | .scope junction [] =>
    rw [Compiler.treePredicate_scope _ _ (by simp), Compiler.treePredicates_nil] at hfound
    obtain rfl := Except.ok.inj hfound
    exact ⟨none, rfl, Accounts.nil, by simp [Matcher.treeHolds, Matcher.treesHold]⟩
  | .scope junction (first :: second :: rest) =>
    rw [Compiler.treePredicate_scope _ _ (by simp)] at hfound
    cases hpredicates : compiler.treePredicates entity (first :: second :: rest) with
    | error error =>
      rw [hpredicates] at hfound
      simp [Except.map] at hfound
    | ok found' =>
      obtain ⟨parts, hparts, haccounts, hholds⟩ :=
        treePredicates_agree (first :: second :: rest) found' hpredicates hleaves
      rw [hpredicates] at hfound
      obtain rfl := Except.ok.inj hfound
      cases parts with
      | nil =>
        refine ⟨none, ?_, haccounts, hholds junction⟩
        simp [hparts, predicates, groupPredicate]
      | cons part parts =>
        -- Only here a group is made, and the matcher joins the same verdicts.
        refine ⟨some (.group junction (part :: parts)), ?_, haccounts.group junction, ?_⟩
        · simp [hparts, predicates, predicate, groupPredicate]
        · rw [Matcher.treeHolds, hholds junction]
          simp [Junction.verdict?, verdicts, holds]

/-- Compiled trees trace back to their conditions and are as true as the matcher
finds the trees, under either junction. -/
theorem treePredicates_agree (trees : List ScopeTree) (found : List Predicate)
    (hfound : compiler.treePredicates entity trees = .ok found)
    (hleaves : ∀ c ∈ ScopeTree.allLeaves trees, ∃ verdict,
      matcher.conditionHolds name row c = .ok verdict) :
    ∃ parts : List TracedPredicate, found = predicates parts ∧
      Accounts compiler entity (ScopeTree.allLeaves trees) parts ∧
      ∀ junction, matcher.treesHold name row junction trees =
        .ok (Junction.verdict? junction (verdicts (matcher.satisfied name row) parts)) := by
  match trees with
  | [] =>
    rw [Compiler.treePredicates_nil] at hfound
    obtain rfl := Except.ok.inj hfound
    exact ⟨[], rfl, Accounts.nil, fun junction => by rw [Matcher.treesHold]; rfl⟩
  | tree :: rest =>
    rw [Compiler.treePredicates_cons] at hfound
    obtain ⟨treeParts, htreeParts, hrestFound⟩ := exists_ok_of_bind hfound
    obtain ⟨treeFound, htree, rfl⟩ := exists_ok_of_map htreeParts
    obtain ⟨restFound, hrest, rfl⟩ := exists_ok_of_map hrestFound
    simp only [ScopeTree.allLeaves, List.mem_append] at hleaves
    obtain ⟨part, hpart, hpartAccounts, hpartHolds⟩ :=
      treePredicate_agrees tree treeFound htree fun c hc => hleaves c (Or.inl hc)
    obtain ⟨parts, hparts, haccounts, hholds⟩ :=
      treePredicates_agree rest restFound hrest fun c hc => hleaves c (Or.inr hc)
    refine ⟨part.toList ++ parts, ?_, hpartAccounts.append haccounts, fun junction => ?_⟩
    · rw [predicates_append, hparts, hpart]
      cases part <;> rfl
    · exact matcher.treesHold_cons hpartHolds (hholds junction)

end

end Agreement

/-- The predicates of a scope trace back to its conditions, and all of them together
are as true as the matcher finds the scope. -/
theorem scopePredicates_agree {compiler : Compiler} {matcher : Matcher} {entity : Entity}
    {name : String} {row : Row} {children : List ScopeTree} {found : List Predicate}
    (hfound : compiler.scopePredicates entity ⟨.and, children⟩ = .ok found)
    (hleaves : ∀ c ∈ ScopeTree.allLeaves children, ∃ verdict,
      matcher.conditionHolds name row c = .ok verdict) :
    ∃ parts : List TracedPredicate, found = predicates parts ∧
      Accounts compiler entity (ScopeTree.allLeaves children) parts ∧
      matcher.treesHold name row .and children =
        .ok (Junction.verdict? .and (verdicts (matcher.satisfied name row) parts)) := by
  have hshape : (Scope.mk .and children).simplify.leaves = ScopeTree.allLeaves children := by
    rw [Scope.simplify, ScopeTree.leaves_simplify, Scope.tree, ScopeTree.leaves]
  have hverdict : matcher.treeHolds name row (Scope.mk .and children).simplify =
      matcher.treesHold name row .and children := by
    rw [Scope.simplify, Matcher.treeHolds_simplify, Scope.tree, Matcher.treeHolds]
  by_cases hand : ∃ simplified, (Scope.mk .and children).simplify = .scope .and simplified
  · obtain ⟨simplified, hsimple⟩ := hand
    rw [Compiler.scopePredicates_and _ _ hsimple] at hfound
    rw [hsimple, ScopeTree.leaves] at hshape
    rw [hsimple, Matcher.treeHolds] at hverdict
    rw [← hshape, ← hverdict]
    rw [← hshape] at hleaves
    obtain ⟨parts, hparts, haccounts, hholds⟩ :=
      treePredicates_agree compiler matcher entity name row simplified found hfound hleaves
    exact ⟨parts, hparts, haccounts, hholds .and⟩
  · have hother := fun simplified hsimple => hand ⟨simplified, hsimple⟩
    rw [Compiler.scopePredicates_other _ _ hother] at hfound
    cases htree : compiler.treePredicate entity (Scope.mk .and children).tree with
    | error error =>
      rw [htree] at hfound
      simp [Except.map] at hfound
    | ok predicate =>
      rw [htree] at hfound
      obtain rfl := Except.ok.inj hfound
      obtain ⟨part, hpart, haccounts, hholds⟩ :=
        treePredicate_agrees compiler matcher entity name row _ predicate htree hleaves
      refine ⟨part.toList, ?_, haccounts, ?_⟩
      · rw [hpart]
        cases part <;> rfl
      · rw [Scope.tree, Matcher.treeHolds] at hholds
        rw [hholds]
        cases part <;> simp [Junction.verdict?, verdicts, Junction.decides]

/-- The predicates added to a filled statement come from the leaves that impose
anything, each once and in order, none of them a group; with each as true as the matcher finds
its condition, all of them hold exactly when the matcher selects the row. None is
added exactly when every leaf is empty or declines. The two backends may even ask
different codecs. -/
theorem Compiler.fillWhere_agrees_with_matcher (compiler : Compiler) (matcher : Matcher)
    (statement filled : Statement) (selection : Selection) (row : Row)
    (hfill : compiler.fillWhere statement selection = .ok filled)
    (hrow : ∀ c ∈ selection.scope.tree.leaves, ∃ verdict,
      matcher.conditionHolds selection.entity row c = .ok verdict) :
    ∃ parts : List TracedPredicate,
      filled = statement.addWheres (predicates parts) ∧
      conditions parts = selection.scope.tree.leaves.filter Condition.imposes ∧
      (∀ leaf ∈ allLeaves parts,
        compiler.conditionPredicate (.root selection.entity) leaf.1 = .ok (some leaf.2) ∧
        leaf.2.isGroup = false ∧
        ∃ result, matcher.conditionHolds selection.entity row leaf.1 = .ok (some result)) ∧
      matcher.selectionMatches row selection = .ok (Junction.and.decides
        (verdicts (matcher.satisfied selection.entity row) parts)) ∧
      (parts = [] ↔ ∀ c ∈ selection.scope.tree.leaves,
        c.isEmpty = true ∨ c.declines = true) := by
  have hleaves : selection.scope.tree.leaves = ScopeTree.allLeaves selection.children := by
    rw [Scope.tree, Selection.scope, ScopeTree.leaves]
  rw [hleaves] at hrow ⊢
  unfold fillWhere selectionPredicates at hfill
  cases hfound : compiler.scopePredicates (.root selection.entity) selection.scope with
  | error error =>
    rw [hfound] at hfill
    simp [Except.map] at hfill
  | ok found =>
    rw [hfound] at hfill
    obtain rfl := Except.ok.inj hfill
    obtain ⟨parts, hparts, haccounts, hholds⟩ := scopePredicates_agree hfound hrow
    refine ⟨parts, by rw [hparts], haccounts.origins, fun leaf hleaf => ?_, ?_,
      haccounts.parts_eq_nil_iff⟩
    · have hcompiled := haccounts.compiled leaf hleaf
      have hgiven : leaf.1 ∈ (ScopeTree.allLeaves selection.children).filter Condition.imposes := by
        rw [← haccounts.origins]
        exact List.mem_map_of_mem hleaf
      obtain ⟨hmember, himposes⟩ := List.mem_filter.1 hgiven
      obtain ⟨verdict, hverdict⟩ := hrow leaf.1 hmember
      refine ⟨hcompiled, conditionPredicate_not_group hcompiled, ?_⟩
      cases verdict with
      | some result => exact ⟨result, hverdict⟩
      | none =>
        rw [(matcher.conditionHolds_eq_none_iff selection.entity row leaf.1).1 hverdict] at himposes
        simp at himposes
    · rw [Matcher.selectionMatches, Matcher.scopeMatches]
      dsimp only [Selection.scope]
      rw [hholds]
      cases parts <;> simp [Except.map, Junction.verdict?, verdicts, Junction.decides]

/-- A selection of two alternatives beside an empty one, and of a condition whose
comparand declines. -/
def alternativesSelection : Selection where
  entity := "user"
  children :=
    [.scope .or
      [.condition ⟨some (.path "name"), some (.eq, .scalar (.string "ann"))⟩,
        .scope .and [.condition .empty],
        .condition ⟨some (.path "role"), some (.neq, .null)⟩],
      .condition ⟨some (.path "age"), some (.gt, .computed fun _ => none)⟩]

/-- A compiler that stores every field as it is and knows no links. -/
def plainCompiler : Compiler := ⟨.generic, .passthrough, none⟩

/-- A matcher that reads every field as it is. -/
def plainMatcher : Matcher := ⟨{}, .passthrough⟩

/-- Both backends drop the empty and the declining leaf of the selection and join the
other two with "or". -/
theorem fillWhere_agrees_on_alternatives :
    ∃ parts : List TracedPredicate,
      predicates parts =
        [.group .or [.comparison (.text "name") none (.literal (.string "ann")),
          .comparison (.text "role") (some .neq) (.literal .null)]] ∧
      plainMatcher.selectionMatches [("name", .string "bob")] alternativesSelection =
        .ok (Junction.and.decides (verdicts
          (plainMatcher.satisfied "user" [("name", .string "bob")]) parts)) := by
  have hname : plainCompiler.conditionPredicate (.root "user")
      ⟨some (.path "name"), some (.eq, .scalar (.string "ann"))⟩ =
        .ok (some (.comparison (.text "name") none (.literal (.string "ann")))) := by
    rw [Compiler.conditionPredicate_of_resolved rfl, Compiler.resolvedPredicate_of_field rfl rfl]
    rfl
  have hrole : plainCompiler.conditionPredicate (.root "user")
      ⟨some (.path "role"), some (.neq, .null)⟩ =
        .ok (some (.comparison (.text "role") (some .neq) (.literal .null))) := by
    rw [Compiler.conditionPredicate_of_resolved rfl, Compiler.resolvedPredicate_of_field rfl rfl]
    rfl
  have hempty : plainCompiler.conditionPredicate (.root "user") .empty = .ok none :=
    Compiler.conditionPredicate_of_nothing rfl
  have hage : plainCompiler.conditionPredicate (.root "user")
      ⟨some (.path "age"), some (.gt, .computed fun _ => none)⟩ = .ok none :=
    Compiler.conditionPredicate_of_nothing rfl
  have hfill : plainCompiler.fillWhere (.empty .generic) alternativesSelection =
      .ok ((Statement.empty .generic).addWheres
        [.group .or [.comparison (.text "name") none (.literal (.string "ann")),
          .comparison (.text "role") (some .neq) (.literal .null)]]) := by
    have hsimple : alternativesSelection.scope.simplify =
        .scope .and alternativesSelection.children := rfl
    rw [Compiler.fillWhere, Compiler.selectionPredicates, Compiler.scopePredicates_and _ _ hsimple]
    simp only [alternativesSelection, Compiler.treePredicates_nil, Compiler.treePredicates_cons,
      Compiler.treePredicate_condition,
      Compiler.treePredicate_scope _ _ (show ∀ child, [_, _, _] ≠ [child] by simp),
      Compiler.treePredicate_singleton, hname, hrole, hempty, hage]
    rfl
  have hrow : ∀ c ∈ alternativesSelection.scope.tree.leaves, ∃ verdict,
      plainMatcher.conditionHolds "user" [("name", .string "bob")] c = .ok verdict := by
    simp only [alternativesSelection, Selection.scope, Scope.tree, ScopeTree.leaves,
      ScopeTree.allLeaves, List.cons_append, List.nil_append, List.append_nil, List.mem_cons,
      List.not_mem_nil, or_false, forall_eq_or_imp, forall_eq]
    exact ⟨⟨some false, rfl⟩, ⟨none, rfl⟩, ⟨some false, rfl⟩, ⟨none, rfl⟩⟩
  obtain ⟨parts, hparts, -, -, hverdict, -⟩ :=
    Compiler.fillWhere_agrees_with_matcher _ _ _ _ _ _ hfill hrow
  refine ⟨parts, ?_, hverdict⟩
  simpa [Statement.addWheres, Statement.empty] using (congrArg Statement.wheres hparts).symm

end ScopeQuery
