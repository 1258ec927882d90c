import ScopeQuery.Proofs.NegatedScopes
import ScopeQuery.Scope.Document

/-!
# Leaves of scope documents

The tree of a document has one leaf for each condition text, in the order of the document.
Every list of things that must not all hold turns the operators below it round, so a leaf
carries the operator that is written exactly when an even number of such lists is around it.
-/

namespace ScopeQuery

/-- The opposite of the opposite operator is the operator. -/
theorem Operator.negate_negate (operator : Operator) : operator.negate.negate = operator := by
  cases operator <;> rfl

namespace Condition

/-- The opposite of the opposite is the condition. -/
theorem negate_negate {condition negated : Condition} (h : condition.negate = .ok negated) :
    negated.negate = .ok condition := by
  obtain ⟨hempty, rfl⟩ | ⟨operator, comparand, htest, rfl⟩ := negate_shape h
  · exact h
  · obtain ⟨subject, test⟩ := condition
    obtain rfl : test = some (operator, comparand) := htest
    simp [negate, isEmpty, Operator.negate_negate]

/-- Opposites have one subject, and both have a computed comparand or neither has. -/
theorem same_of_negate {condition negated : Condition} (h : condition.negate = .ok negated) :
    negated.subject = condition.subject ∧ negated.isComputed = condition.isComputed := by
  obtain ⟨-, rfl⟩ | ⟨operator, comparand, htest, rfl⟩ := negate_shape h
  · exact ⟨rfl, rfl⟩
  · obtain ⟨subject, test⟩ := condition
    obtain rfl : test = some (operator, comparand) := htest
    exact ⟨rfl, by cases comparand <;> rfl⟩

end Condition

namespace ScopeTree

/-- The leaves of trees one after another. -/
theorem allLeaves_append (trees rest : List ScopeTree) :
    allLeaves (trees ++ rest) = allLeaves trees ++ allLeaves rest := by
  induction trees with
  | nil => rfl
  | cons tree trees ih => rw [List.cons_append, allLeaves, allLeaves, ih, List.append_assoc]

/-- The leaves of joined trees that may be left out. -/
theorem allLeaves_of_alternatives (junction : Junction) (found : Option (List ScopeTree)) :
    allLeaves (found.map (.scope junction)).toList = allLeaves (found.getD []) := by
  cases found with
  | none => rfl
  | some trees => exact List.append_nil _

mutual

/-- The leaves of the opposite of a tree are the opposites of its leaves. -/
theorem leaves_of_negate {tree negated : ScopeTree} (h : tree.negate = .ok negated) :
    tree.leaves.map Condition.negate = negated.leaves.map .ok := by
  match tree with
  | .condition c =>
    rw [negate] at h
    split at h
    · rename_i opposite hopposite
      cases h
      simp [leaves, hopposite]
    · cases h
  | .scope junction children =>
    rw [negate] at h
    split at h
    · rename_i opposites hopposites
      cases h
      exact allLeaves_of_negateAll hopposites
    · cases h

/-- The leaves of the opposites of several trees are the opposites of their leaves. -/
theorem allLeaves_of_negateAll {trees negated : List ScopeTree}
    (h : negateAll trees = .ok negated) :
    (allLeaves trees).map Condition.negate = (allLeaves negated).map .ok := by
  match trees with
  | [] =>
    cases h
    rfl
  | tree :: rest =>
    rw [negateAll] at h
    split at h
    · cases h
    · rename_i opposite hopposite
      split at h
      · rename_i opposites hopposites
        cases h
        rw [allLeaves, allLeaves, List.map_append, List.map_append, leaves_of_negate hopposite,
          allLeaves_of_negateAll hopposites]
      · cases h

end

end ScopeTree

namespace ScopeDocument

mutual

/-- The condition texts from left to right, each with whether an odd number of lists of
things that must not all hold is around it. -/
def signedTexts : ScopeDocument → List (String × Bool)
  | .condition text => [(text, false)]
  | .group all any not =>
    listTexts all ++ listTexts any ++ (listTexts not).map fun leaf => (leaf.1, !leaf.2)

/-- The condition texts of a list that may be left out. -/
def listTexts : Option (List ScopeDocument) → List (String × Bool)
  | none => []
  | some items => allTexts items

/-- The condition texts of several documents, in order. -/
def allTexts : List ScopeDocument → List (String × Bool)
  | [] => []
  | document :: rest => signedTexts document ++ allTexts rest

end

/-- The tree of a group joins those of the first list, the alternatives of the second and the
opposites of the third as alternatives; a list left out adds nothing. -/
theorem tree_of_group {context : ParseContext} {all any not : Option (List ScopeDocument)}
    {tree : ScopeTree} (h : (group all any not).tree context = .ok tree) :
    ∃ (allTrees anyTrees notTrees opposites : Option (List ScopeTree)),
      listTrees context all = .ok allTrees ∧
      listTrees context any = .ok anyTrees ∧ listTrees context not = .ok notTrees ∧
      opposites.isSome = notTrees.isSome ∧
      ScopeTree.negateAll (notTrees.getD []) = .ok (opposites.getD []) ∧
      tree = .scope .and (allTrees.getD [] ++ (anyTrees.map (.scope .or)).toList ++
        (opposites.map (.scope .or)).toList) := by
  rw [ScopeDocument.tree] at h
  split at h
  · cases h
  · rename_i allTrees hall
    split at h
    · cases h
    · rename_i anyTrees hany
      split at h
      · cases h
      · rename_i notTrees hnot
        split at h
        · cases h
        · rename_i negated hnegated
          cases h
          obtain ⟨trees, rfl, htrees⟩ := Option.map_eq_some_iff.1 hnegated
          exact ⟨allTrees, anyTrees, some trees, some negated, hall, hany, hnot, rfl, htrees, rfl⟩
        · rename_i hnegated
          cases h
          obtain rfl := Option.map_eq_none_iff.1 hnegated
          exact ⟨allTrees, anyTrees, none, none, hall, hany, hnot, rfl, rfl, by simp⟩

/-- The condition a text stands for, or its opposite when the text is to be turned round. -/
def signedCondition (context : ParseContext) (leaf : String × Bool) :
    Except QueryError Condition :=
  match parseCondition context leaf.1 with
  | .ok written => if leaf.2 then written.negate else .ok written
  | .error error => .error error

/-- Turning a text round once more gives the opposite condition. -/
theorem signedCondition_turned {context : ParseContext} {leaf : String × Bool}
    {condition negated : Condition} (h : signedCondition context leaf = .ok condition)
    (hnegate : condition.negate = .ok negated) :
    signedCondition context (leaf.1, !leaf.2) = .ok negated := by
  obtain ⟨text, odd⟩ := leaf
  unfold signedCondition at h ⊢
  cases hwritten : parseCondition context text with
  | error error => simp [hwritten] at h
  | ok written =>
    cases odd with
    | false =>
      obtain rfl : written = condition := by simpa [hwritten] using h
      exact hnegate
    | true =>
      have hturned : written.negate = .ok condition := by simpa [hwritten] using h
      rw [Condition.negate_negate hturned] at hnegate
      exact hnegate

/-- Turning texts round once more gives the opposite conditions. -/
theorem signedConditions_turned {context : ParseContext} {texts : List (String × Bool)}
    {leaves opposites : List Condition}
    (h : texts.map (signedCondition context) = leaves.map .ok)
    (hnegate : leaves.map Condition.negate = opposites.map .ok) :
    (texts.map fun leaf => (leaf.1, !leaf.2)).map (signedCondition context) =
      opposites.map .ok := by
  induction texts generalizing leaves opposites with
  | nil =>
    obtain rfl := List.map_eq_nil_iff.1 h.symm
    exact hnegate
  | cons leaf texts ih =>
    cases leaves with
    | nil => cases h
    | cons condition leaves =>
      cases opposites with
      | nil => cases hnegate
      | cons opposite opposites =>
        rw [List.map_cons, List.map_cons] at h hnegate
        obtain ⟨hfirst, hrest⟩ := List.cons.inj h
        obtain ⟨hopposite, hopposites⟩ := List.cons.inj hnegate
        rw [List.map_cons, List.map_cons, List.map_cons, signedCondition_turned hfirst hopposite,
          ih hrest hopposites]

section Leaves

variable {context : ParseContext}

mutual

/-- The leaves of a document's tree are its texts in order, those under an odd number of
negated lists turned round. -/
theorem leaves_of_tree {document : ScopeDocument} {tree : ScopeTree}
    (h : document.tree context = .ok tree) :
    document.signedTexts.map (signedCondition context) = tree.leaves.map .ok := by
  match document with
  | .condition text =>
    rw [ScopeDocument.tree] at h
    split at h
    · rename_i leaf hleaf
      cases h
      simp [signedTexts, signedCondition, hleaf, ScopeTree.leaves]
    · cases h
  | .group all any not =>
    obtain ⟨allTrees, anyTrees, notTrees, opposites, hall, hany, hnot, -, hnegate, rfl⟩ :=
      tree_of_group h
    have hturned := signedConditions_turned (leaves_of_listTrees hnot)
      (ScopeTree.allLeaves_of_negateAll hnegate)
    rw [signedTexts, ScopeTree.leaves, ScopeTree.allLeaves_append, ScopeTree.allLeaves_append,
      ScopeTree.allLeaves_of_alternatives, ScopeTree.allLeaves_of_alternatives]
    simp only [List.map_append, leaves_of_listTrees hall, leaves_of_listTrees hany, hturned]

/-- The leaves of a list's trees are its texts in order. -/
theorem leaves_of_listTrees {list : Option (List ScopeDocument)}
    {found : Option (List ScopeTree)} (h : listTrees context list = .ok found) :
    (listTexts list).map (signedCondition context) =
      (ScopeTree.allLeaves (found.getD [])).map .ok := by
  match list with
  | none =>
    cases h
    rfl
  | some items =>
    rw [listTrees] at h
    split at h
    · rename_i trees htrees
      cases h
      exact leaves_of_trees htrees
    · cases h

/-- The leaves of several documents' trees are their texts in order. -/
theorem leaves_of_trees {documents : List ScopeDocument} {found : List ScopeTree}
    (h : trees context documents = .ok found) :
    (allTexts documents).map (signedCondition context) =
      (ScopeTree.allLeaves found).map .ok := by
  match documents with
  | [] =>
    cases h
    rfl
  | document :: rest =>
    rw [trees] at h
    split at h
    · cases h
    · rename_i first hfirst
      split at h
      · rename_i following hfollowing
        cases h
        rw [allTexts, ScopeTree.allLeaves, List.map_append, List.map_append,
          leaves_of_tree hfirst, leaves_of_trees hfollowing]
      · cases h

end

end Leaves

end ScopeDocument

end ScopeQuery
