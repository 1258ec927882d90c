import ScopeQuery.Proofs.ImposedConditions
import ScopeQuery.Proofs.RelationComplement
import ScopeQuery.Proofs.ShippedCodecs

/-!
# Negated scopes

A negated scope selects the rows the scope leaves out. Each leaf mirrors its opposite,
and an evaluation that stops at a false requirement mirrors one that stops at a true
alternative, so that trees mirror their opposites, errors included.
-/

namespace ScopeQuery

/-- Whether the comparand is computed when the condition is used. -/
def Condition.isComputed (condition : Condition) : Bool :=
  match condition.test with
  | some (_, .computed _) => true
  | _ => false

/-- Every storage key that one of the conditions reads holds a scalar in the row. -/
def Matcher.ReadsScalars (matcher : Matcher) (entity : String) (row : Row)
    (conditions : List Condition) : Prop :=
  ∀ c ∈ conditions, ∀ field codec, c.subject = some (.path field) → hasHop field = false →
    matcher.codecs entity field = .ok codec → (row.value codec.key).isScalar = true

/-- A condition without a computed comparand imposes something unless it is empty. -/
theorem Condition.imposes_of_plain {condition : Condition} (h : condition.isComputed = false) :
    condition.imposes = !condition.isEmpty := by
  have hdeclines : condition.declines = false := by
    obtain ⟨subject, test⟩ := condition
    cases test with
    | none => rfl
    | some pair =>
      obtain ⟨operator, comparand⟩ := pair
      cases comparand with
      | computed compute => exact absurd h (by simp [isComputed])
      | _ => rfl
  rw [imposes, hdeclines, Bool.not_false, Bool.and_true]

/-- What has an opposite is empty, or has an operator that is turned round. -/
theorem Condition.negate_shape {condition negated : Condition}
    (h : condition.negate = .ok negated) :
    condition.isEmpty = true ∧ negated = condition ∨
      ∃ operator comparand, condition.test = some (operator, comparand) ∧
        negated = { condition with test := some (operator.negate, comparand) } := by
  unfold negate at h
  split at h
  · rename_i hempty
    exact .inl ⟨hempty, (Except.ok.inj h).symm⟩
  · split at h
    · rename_i operator comparand htest
      exact .inr ⟨operator, comparand, htest, (Except.ok.inj h).symm⟩
    · simp at h

namespace Matcher

variable {matcher : Matcher} {entity : String} {row : Row}

/-- On a scalar, the stored forms of a condition and its opposite mirror each other. -/
theorem storedHolds_negate {field : String} {actual : Value} (hactual : actual.isScalar = true)
    (condition negated : Condition) {operator : Operator} {stored : StoredCondition}
    (hoperator : stored.operator = some operator) (hvalue : stored.value.isSome = true) :
    Mirrored not (matcher.storedHolds field condition actual stored)
      (matcher.storedHolds field negated actual
        { stored with operator := some operator.negate }) := by
  obtain ⟨key, storedOperator, value⟩ := stored
  obtain rfl : storedOperator = some operator := hoperator
  unfold storedHolds
  cases value with
  | none => simp at hvalue
  | some argument =>
    cases argument with
    | literal expected =>
      dsimp only [Option.getD_some]
      have hrelation := relationHolds_negate matcher.settings hactual operator expected
      exact hrelation.elim (fun e e' => .failed _ _) fun result => .answered result
    | expression e => exact .failed _ _
    | statement s => exact .failed _ _
    | list items => exact .failed _ _

/-- A condition with an operator and its opposite mirror each other. -/
theorem resolvedHolds_negate (hcodecs : matcher.codecs.Shipped) {subject : Option Subject}
    {operator : Operator} {comparand : Comparand}
    (hreads : matcher.ReadsScalars entity row [⟨subject, some (operator, comparand)⟩]) :
    Mirrored not (matcher.resolvedHolds entity row ⟨subject, some (operator, comparand)⟩)
      (matcher.resolvedHolds entity row ⟨subject, some (operator.negate, comparand)⟩) := by
  unfold resolvedHolds
  match subject with
  | none => exact .failed _ _
  | some (.expression e) => exact .failed _ _
  | some (.path field) =>
    dsimp only
    cases hhop : hasHop field with
    | true => exact .failed _ _
    | false =>
      simp only [Bool.false_eq_true, if_false]
      unfold fieldHolds
      cases hcodec : matcher.codecs entity field with
      | error error => exact .failed _ _
      | ok codec =>
        have hshipped := hcodecs entity field codec hcodec
        have hactual := hreads _ (List.mem_singleton.2 rfl) field codec rfl hhop hcodec
        dsimp only [Condition.operator, Condition.comparand, Option.map_some]
        cases hstored : codec.store (some operator) (some comparand) with
        | error error =>
          obtain ⟨opposite, hopposite⟩ :=
            (hshipped.store_mirrored (some operator) (some operator.negate)
              (some comparand)).error_iff.2 ⟨error, hstored⟩
          rw [hopposite]
          exact .failed _ _
        | ok stored =>
          have hopposite := (hshipped.store_mirrored (some operator) (some operator.negate)
            (some comparand)).answer hstored
          rw [hopposite]
          obtain ⟨hoperator, hvalue⟩ := hshipped.store_shape hstored
          exact storedHolds_negate hactual _ _ hoperator hvalue

/-- A leaf and its opposite mirror each other. -/
theorem conditionHolds_negate (hcodecs : matcher.codecs.Shipped) {condition negated : Condition}
    (hnegate : condition.negate = .ok negated) (hplain : condition.isComputed = false)
    (hreads : matcher.ReadsScalars entity row [condition]) :
    Mirrored (Option.map not) (matcher.conditionHolds entity row condition)
      (matcher.conditionHolds entity row negated) := by
  obtain ⟨hempty, rfl⟩ | ⟨operator, comparand, htest, rfl⟩ := Condition.negate_shape hnegate
  · have hnone : matcher.conditionHolds entity row negated = .ok none := by
      rw [conditionHolds_eq_none_iff, Condition.imposes_eq_false_iff]
      exact .inl hempty
    rw [hnone]
    exact .answered none
  · obtain ⟨subject, test⟩ := condition
    obtain rfl : test = some (operator, comparand) := htest
    have hresolved (other : Operator) : Condition.resolved ⟨subject, some (other, comparand)⟩ =
        .ok (some ⟨subject, some (other, comparand)⟩) := by
      refine Condition.resolved_of_plain (by simp [Condition.isEmpty]) fun _ compute h => ?_
      obtain ⟨-, rfl⟩ : _ ∧ comparand = .computed compute := by simpa using h
      simp [Condition.isComputed] at hplain
    unfold conditionHolds
    rw [hresolved operator, hresolved operator.negate]
    dsimp only
    have hmirrored := resolvedHolds_negate hcodecs hreads
    exact hmirrored.elim (fun e e' => .failed e e') fun result => .answered (some result)

/-- One more tree keeps the mirroring: the verdict that settles one junction, turned
round, settles the other. -/
theorem treesHold_cons_mirrored {junction : Junction} {tree opposite : ScopeTree}
    {rest opposites : List ScopeTree}
    (htree : Mirrored (Option.map not) (matcher.treeHolds entity row tree)
      (matcher.treeHolds entity row opposite))
    (hrest : Mirrored (Option.map not) (matcher.treesHold entity row junction rest)
      (matcher.treesHold entity row junction.flip opposites)) :
    Mirrored (Option.map not) (matcher.treesHold entity row junction (tree :: rest))
      (matcher.treesHold entity row junction.flip (opposite :: opposites)) := by
  rw [treesHold, treesHold]
  refine htree.elim (fun e e' => .failed e e') fun verdict => ?_
  cases verdict with
  | none => exact hrest
  | some result =>
    have hsettled : ((!result) == (junction.flip == .or)) = (result == (junction == .or)) := by
      cases result <;> cases junction <;> rfl
    dsimp only [Option.map_some]
    rw [hsettled]
    -- Either both evaluations stop here or neither does.
    split
    · exact .answered (some result)
    · refine hrest.elim (fun e e' => .failed e e') fun further => ?_
      cases further with
      | none => exact .answered (some result)
      | some later => exact .answered (some later)

mutual

/-- A tree and its opposite mirror each other. -/
theorem treeHolds_negate (hcodecs : matcher.codecs.Shipped) (tree negated : ScopeTree)
    (hnegate : tree.negate = .ok negated) (hplain : ∀ c ∈ tree.leaves, c.isComputed = false)
    (hreads : matcher.ReadsScalars entity row tree.leaves) :
    Mirrored (Option.map not) (matcher.treeHolds entity row tree)
      (matcher.treeHolds entity row negated) := by
  cases tree with
  | condition c =>
    rw [ScopeTree.negate] at hnegate
    split at hnegate
    · rename_i opposite hopposite
      obtain rfl := Except.ok.inj hnegate
      exact conditionHolds_negate hcodecs hopposite (hplain c (by simp [ScopeTree.leaves])) hreads
    · simp at hnegate
  | scope junction children =>
    rw [ScopeTree.negate] at hnegate
    split at hnegate
    · rename_i opposites hopposites
      obtain rfl := Except.ok.inj hnegate
      exact treesHold_negate hcodecs junction children opposites hopposites hplain hreads
    · simp at hnegate

/-- Trees under one junction and their opposites under the other mirror each other. -/
theorem treesHold_negate (hcodecs : matcher.codecs.Shipped) (junction : Junction)
    (trees negated : List ScopeTree) (hnegate : ScopeTree.negateAll trees = .ok negated)
    (hplain : ∀ c ∈ ScopeTree.allLeaves trees, c.isComputed = false)
    (hreads : matcher.ReadsScalars entity row (ScopeTree.allLeaves trees)) :
    Mirrored (Option.map not) (matcher.treesHold entity row junction trees)
      (matcher.treesHold entity row junction.flip negated) := by
  cases trees with
  | nil =>
    obtain rfl := Except.ok.inj hnegate
    rw [treesHold, treesHold]
    exact .answered none
  | cons tree rest =>
    rw [ScopeTree.negateAll] at hnegate
    split at hnegate
    · simp at hnegate
    · rename_i opposite hopposite
      split at hnegate
      · rename_i opposites hopposites
        obtain rfl := Except.ok.inj hnegate
        simp only [ScopeTree.allLeaves, List.mem_append, or_imp, forall_and] at hplain
        have htreeReads : matcher.ReadsScalars entity row tree.leaves :=
          fun c hc => hreads c (by simp [ScopeTree.allLeaves, hc])
        have hrestReads : matcher.ReadsScalars entity row (ScopeTree.allLeaves rest) :=
          fun c hc => hreads c (by simp [ScopeTree.allLeaves, hc])
        exact treesHold_cons_mirrored
          (treeHolds_negate hcodecs tree opposite hopposite hplain.1 htreeReads)
          (treesHold_negate hcodecs junction rest opposites hopposites hplain.2 hrestReads)
      · simp at hnegate

end

/-- Negating a scope selects the complement. Without computed comparands and with the
codecs of the library, on a row that holds a scalar under every storage key a leaf reads,
the negated scope fails exactly when the scope does. When they answer, a scope that imposes
anything and its opposite differ, and one that imposes nothing is satisfied like its
opposite. -/
theorem scopeMatches_negate (matcher : Matcher) (entity : String) (row : Row)
    (scope negated : Scope) (hcodecs : matcher.codecs.Shipped)
    (hnegate : scope.negate = .ok negated)
    (hplain : ∀ c ∈ scope.tree.leaves, c.isComputed = false)
    (hreads : matcher.ReadsScalars entity row scope.tree.leaves) :
    ((∃ error, matcher.scopeMatches entity row negated = .error error) ↔
      ∃ error, matcher.scopeMatches entity row scope = .error error) ∧
    ∀ result, matcher.scopeMatches entity row scope = .ok result →
      (scope.isEmpty = false → matcher.scopeMatches entity row negated = .ok !result) ∧
      (scope.isEmpty = true →
        result = true ∧ matcher.scopeMatches entity row negated = .ok true) := by
  obtain ⟨junction, children⟩ := scope
  rw [Scope.tree, ScopeTree.leaves] at hplain hreads
  have hnone : matcher.treesHold entity row junction children = .ok none ↔
      (Scope.mk junction children).isEmpty = true := by
    rw [treesHold_eq_none_iff, Scope.isEmpty, ScopeTree.allEmpty_iff]
    refine forall_congr' fun c => forall_congr' fun hc => ?_
    rw [Condition.imposes_of_plain (hplain c hc), Bool.not_eq_false']
  unfold Scope.negate at hnegate
  cases hopposites : ScopeTree.negateAll children with
  | error error =>
    rw [hopposites] at hnegate
    simp [Except.map] at hnegate
  | ok opposites =>
    rw [hopposites] at hnegate
    obtain rfl := Except.ok.inj hnegate
    have hmirrored := treesHold_negate hcodecs junction children opposites hopposites hplain hreads
    unfold scopeMatches
    dsimp only
    cases hleft : matcher.treesHold entity row junction children with
    | error error =>
      obtain ⟨opposite, hright⟩ := hmirrored.error_iff.2 ⟨error, hleft⟩
      rw [hright]
      simp [Except.map]
    | ok verdict =>
      rw [hleft] at hnone
      rw [hmirrored.answer hleft]
      cases verdict with
      | none =>
        have hempty := hnone.1 rfl
        simp [Except.map, hempty]
      | some result =>
        have hfilled : (Scope.mk junction children).isEmpty = false := by simpa using hnone
        simp [Except.map, hfilled]

/-- The condition that a user's role is not in a list, and its opposite in a scope with
an alternative and with an empty scope: the row the scope leaves out is in the opposite. -/
theorem scopeMatches_negate_of_admin :
    (Matcher.mk {} .passthrough).scopeMatches "user"
      [("name", .string "bob"), ("role", .string "admin")]
      ⟨.and, [.condition ⟨some (.path "name"), some (.neq, .scalar (.string "ann"))⟩,
        .scope .or [.condition .empty],
        .condition ⟨some (.path "role"), some (.isIn, .list [.string "admin", .string "root"])⟩]⟩ =
      .ok true := by
  refine ((scopeMatches_negate _ _ _
    ⟨.or, [.condition ⟨some (.path "name"), some (.eq, .scalar (.string "ann"))⟩,
      .scope .and [.condition .empty],
      .condition ⟨some (.path "role"),
        some (.notIn, .list [.string "admin", .string "root"])⟩]⟩ _
    Codecs.passthrough_shipped rfl ?_ ?_).2 false rfl).1 rfl
  · simp only [Scope.tree, ScopeTree.leaves, ScopeTree.allLeaves, List.cons_append,
      List.nil_append, List.append_nil, List.mem_cons, List.not_mem_nil, or_false,
      forall_eq_or_imp, forall_eq]
    exact ⟨rfl, rfl, rfl⟩
  · intro c hc field codec hsubject _ hcodec
    obtain rfl := Except.ok.inj hcodec
    simp only [Scope.tree, ScopeTree.leaves, ScopeTree.allLeaves, List.cons_append,
      List.nil_append, List.append_nil, List.mem_cons, List.not_mem_nil, or_false] at hc
    rcases hc with rfl | rfl | rfl
    · obtain rfl : "name" = field := by simpa using hsubject
      rfl
    · simp [Condition.empty] at hsubject
    · obtain rfl : "role" = field := by simpa using hsubject
      rfl

end Matcher

end ScopeQuery
