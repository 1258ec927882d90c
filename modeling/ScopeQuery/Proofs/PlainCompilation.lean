import ScopeQuery.Proofs.ComparisonAgreement
import ScopeQuery.Proofs.HopPaths
import ScopeQuery.Proofs.MembershipAgreement
import ScopeQuery.Proofs.PassthroughFields
import ScopeQuery.Proofs.ReadingStatements

/-!
# Compilation of plain scopes

A scope whose conditions are about fields of the entity itself, compared with given values, can be
refused for one reason only: a field is ordered by null. The conditions are asked in depth-first
order, whatever the scope nests, so the error is that of the first of them that orders by null.
-/

namespace ScopeQuery

/-- A condition on a field of the entity itself, of the kinds that are made from a field alone or
from a field, an operator and a value. -/
inductive Condition.Plain : Condition → Prop
  /-- Nothing is imposed. -/
  | empty : Plain .empty
  /-- A field alone. -/
  | bare {field : String} (hfield : hasHop field = false) : Plain (.bare (.path field))
  /-- A field compared with a value. -/
  | compare {field : String} {operator : Operator} {value : Value} {condition : Condition}
      (hfield : hasHop field = false)
      (h : Condition.compare (.path field) operator (.ofValue value) = .ok condition) :
      Plain condition

/-- The field and the operator of a condition that orders a field by null. -/
def Condition.orderOfNull? (condition : Condition) : Option (String × Operator) :=
  match condition.subject, condition.test with
  | some (.path field), some (operator, .null) =>
    if operator ∈ [.gt, .gte, .lt, .lte] then some (field, operator) else none
  | _, _ => none

/-- A comparison with null orders by it when its operator is one of order. -/
theorem Condition.orderOfNull?_null (field : String) (operator : Operator) :
    orderOfNull? ⟨some (.path field), some (operator, .null)⟩ =
      if operator.isOrdering then some (field, operator) else none := by
  cases operator <;> rfl

/-- A comparison with a value that fits its operator is refused when it orders by null, in every
dialect, and otherwise it has a fragment. -/
theorem comparisonExpression_ofValue (field : Argument) {written : Option Operator}
    {value : Value}
    (hcheck : Comparand.check (written.getD .eq) (.ofValue value) = .ok ()) :
    (value = .null ∧ (written.getD .eq).isOrdering = true ∧
        ∀ dialect, comparisonExpression dialect field written (.literal value) =
          .error (.orderOfNull field.describe (written.getD .eq))) ∨
      ¬ (value = .null ∧ (written.getD .eq).isOrdering = true) ∧
        ∀ dialect, ∃ e, comparisonExpression dialect field written (.literal value) = .ok e := by
  cases value with
  | null =>
    cases horder : (written.getD .eq).isOrdering with
    | true =>
      refine .inl ⟨rfl, rfl, fun dialect => ?_⟩
      rw [comparisonExpression_null rfl, nullTest, if_pos horder]
    | false =>
      refine .inr ⟨by simp, fun dialect => ?_⟩
      rw [comparisonExpression_null rfl, nullTest, if_neg (by simp [horder])]
      split
      · exact ⟨_, rfl⟩
      · exact ⟨_, rfl⟩
  | array items =>
    have hlist := Comparand.acceptsList_of_check hcheck
    exact .inr ⟨by simp, fun dialect => ⟨_, comparisonExpression_list hlist⟩⟩
  | bool _ | number _ | string _ | object _ =>
    exact .inr ⟨by simp, fun dialect => ⟨_, comparisonExpression_scalar rfl rfl⟩⟩

/-- A comparison is what its fragment is. -/
theorem predicateExpressions_comparison (dialect : Dialect) (field value : Argument)
    (written : Option Operator) :
    predicateExpressions dialect [.comparison field written value] =
      (comparisonExpression dialect field written value).map fun e => [e] := by
  rw [predicateExpressions, Predicate.toExpression, predicateExpressions]
  cases comparisonExpression dialect field written value <;> rfl

/-- A comparison of a name with a value is refused when it orders by null, and otherwise has a
fragment that always has a text. -/
theorem comparisonPredicate_comesTo {field : String} {operator : Operator} {value : Value}
    (hcheck : Comparand.check operator (.ofValue value) = .ok ()) :
    ComeTo [comparisonPredicate (.text field) (some operator) (.literal value)]
      ((Condition.orderOfNull? ⟨some (.path field), some (operator, .ofValue value)⟩).map
        fun refused => .orderOfNull refused.1 refused.2) := by
  obtain ⟨written, hpredicate, rfl⟩ : ∃ written,
      comparisonPredicate (.text field) (some operator) (.literal value) =
        .comparison (.text field) written (.literal value) ∧ written.getD .eq = operator := by
    cases operator <;> exact ⟨_, rfl, rfl⟩
  rw [hpredicate]
  obtain ⟨rfl, horder, hcomparison⟩ | ⟨horder, hcomparison⟩ :=
    comparisonExpression_ofValue (.text field) hcheck
  · -- The error names the field because the name of a field is its text.
    rw [Comparand.ofValue, Condition.orderOfNull?_null, if_pos horder]
    intro dialect
    rw [predicateExpressions_comparison, hcomparison dialect]
    rfl
  · have hallowed : Condition.orderOfNull?
        ⟨some (.path field), some (written.getD .eq, .ofValue value)⟩ = none := by
      cases value with
      | null => rw [Comparand.ofValue, Condition.orderOfNull?_null, if_neg (by simpa using horder)]
      | _ => rfl
    rw [hallowed]
    intro dialect
    obtain ⟨e, he⟩ := hcomparison dialect
    refine ⟨[e], by rw [predicateExpressions_comparison, he]; rfl, ?_⟩
    have hrenders := comparisonExpression_alwaysRenders he (Argument.text_alwaysRenders field)
      (Argument.literal_alwaysRenders value)
    simpa using hrenders

namespace Compiler

variable {compiler : Compiler}

/-- A plain condition has its predicate, which comes to the error of an order by null or to
fragments that always have a text. -/
theorem conditionPredicate_of_plain (hcodecs : compiler.codecs = .passthrough) (entity : String)
    {condition : Condition} (hplain : condition.Plain) :
    ∃ predicate, compiler.conditionPredicate (.root entity) condition = .ok predicate ∧
      ComeTo predicate.toList
        (condition.orderOfNull?.map fun refused => .orderOfNull refused.1 refused.2) := by
  cases hplain with
  | empty => exact ⟨none, conditionPredicate_of_nothing rfl, fun dialect => ⟨[], rfl, by simp⟩⟩
  | @bare field hfield =>
    have hpredicate : compiler.conditionPredicate (.root entity) (.bare (.path field)) =
        .ok (some (Expression.ofTemplate "\x7b\x7b\x7d\x7d" [.text field]).predicate) := by
      rw [conditionPredicate_of_resolved rfl,
        resolvedPredicate_of_field rfl (splitHop?_of_field hfield), Condition.bare,
        fieldPredicate_bare hcodecs]
      rfl
    have hname : (Expression.ofTemplate "\x7b\x7b\x7d\x7d" [.text field]).AlwaysRenders :=
      Expression.alwaysRenders_of_placed [.soft] (by decide +kernel) rfl
        (by simpa using Argument.text_alwaysRenders field)
    exact ⟨_, hpredicate, Expression.predicate_comesTo hname⟩
  | @compare field operator value _ hfield h =>
    obtain ⟨rfl, hcheck⟩ := Condition.compare_eq_ok h
    have hresolved : Condition.resolved ⟨some (.path field), some (operator, .ofValue value)⟩ =
        .ok (some ⟨some (.path field), some (operator, .ofValue value)⟩) := by
      cases value <;> rfl
    refine ⟨some _, ?_, comparisonPredicate_comesTo hcheck⟩
    rw [conditionPredicate_of_resolved hresolved,
      resolvedPredicate_of_field rfl (splitHop?_of_field hfield), fieldPredicate_ofValue hcodecs]
    rfl

/-- The predicates of plain conditions come to the error of the first of them that orders by
null. -/
theorem contributions_of_plain (hcodecs : compiler.codecs = .passthrough) (entity : String)
    {conditions : List Condition} (hplain : ∀ condition ∈ conditions, condition.Plain) :
    ∃ fragments,
      contributions (compiler.conditionPredicate (.root entity)) conditions = .ok fragments ∧
      ComeTo fragments ((conditions.findSome? Condition.orderOfNull?).map
        fun refused => .orderOfNull refused.1 refused.2) := by
  induction conditions with
  | nil => exact ⟨[], rfl, fun dialect => ⟨[], rfl, by simp⟩⟩
  | cons condition rest ih =>
    obtain ⟨predicate, hpredicate, hcomes⟩ :=
      conditionPredicate_of_plain hcodecs entity (hplain condition List.mem_cons_self)
    obtain ⟨fragments, hfragments, hrest⟩ :=
      ih fun condition hmem => hplain condition (List.mem_cons_of_mem _ hmem)
    refine ⟨predicate.toList ++ fragments, ?_, ?_⟩
    · rw [contributions_cons, hpredicate]
      dsimp only
      rw [hfragments]
    · have happend := hcomes.append hrest
      rw [List.findSome?_cons]
      cases hfirst : condition.orderOfNull? with
      | none =>
        rw [hfirst] at happend
        exact happend
      | some refused =>
        rw [hfirst] at happend
        exact happend

/-- A scope of plain conditions is refused for an order by null alone. -/
theorem compile_plain (compiler : Compiler) (hcodecs : compiler.codecs = .passthrough)
    (selection : Selection)
    (hplain : ∀ condition ∈ selection.scope.tree.leaves, condition.Plain) :
    ((∃ query, compiler.compile selection = .ok query) ↔
      ∀ condition ∈ selection.scope.tree.leaves, condition.orderOfNull? = none) ∧
    ∀ field operator,
      selection.scope.tree.leaves.findSome? Condition.orderOfNull? = some (field, operator) →
        compiler.compile selection = .error (.query (.orderOfNull field operator)) := by
  obtain ⟨fragments, hfragments, hcomes⟩ :=
    contributions_of_plain hcodecs selection.entity hplain
  obtain ⟨predicates, hselect, rfl⟩ := select_of_contributions hfragments
  cases hfirst : selection.scope.tree.leaves.findSome? Condition.orderOfNull? with
  | none =>
    rw [hfirst] at hcomes
    obtain ⟨query, hquery⟩ :=
      Statement.readingAll_renders compiler.dialect selection.entity hcomes
    have hcompile : compiler.compile selection = .ok query := by
      rw [compile, hselect]
      dsimp only
      rw [hquery]
    refine ⟨⟨fun _ => List.findSome?_eq_none_iff.1 hfirst, fun _ => ⟨query, hcompile⟩⟩, ?_⟩
    rintro field operator ⟨⟩
  | some refused =>
    rw [hfirst] at hcomes
    have hcompile : compiler.compile selection =
        .error (.query (.orderOfNull refused.1 refused.2)) := by
      rw [compile, hselect]
      dsimp only
      rw [Statement.readingAll_fails compiler.dialect selection.entity hcomes]
    refine ⟨⟨?_, fun hallowed => ?_⟩, ?_⟩
    · rintro ⟨query, hquery⟩
      cases hcompile.symm.trans hquery
    · cases hfirst.symm.trans (List.findSome?_eq_none_iff.2 hallowed)
    · rintro field operator ⟨⟩
      exact hcompile

/-- Users of some age and rank, in scopes nested in each other. -/
def rankedSelection (age rank : Comparand) : Selection where
  entity := "user"
  children :=
    [.condition ⟨some (.path "active"), none⟩,
      .scope .or
        [.condition ⟨some (.path "role"), some (.isIn, .list [.string "admin", .null])⟩,
          .scope .and
            [.condition ⟨none, none⟩,
              .condition ⟨some (.path "age"), some (.gte, age)⟩]],
      .condition ⟨some (.path "rank"), some (.lt, rank)⟩]

/-- Of two orders by null the first one is the error, although it is nested deeper; with given
values there is a query. -/
theorem compile_plain_ranked :
    (∃ query, (⟨.oracle, .passthrough, none⟩ : Compiler).compile
        (rankedSelection (.scalar (.string "18")) (.scalar (.bool true))) = .ok query) ∧
      (⟨.oracle, .passthrough, none⟩ : Compiler).compile (rankedSelection .null .null) =
        .error (.query (.orderOfNull "age" .gte)) := by
  have hplain (age rank : Value) (hage : Comparand.check .gte (.ofValue age) = .ok ())
      (hrank : Comparand.check .lt (.ofValue rank) = .ok ()) :
      ∀ condition ∈ (rankedSelection (.ofValue age) (.ofValue rank)).scope.tree.leaves,
        condition.Plain := by
    have hleaves : (rankedSelection (.ofValue age) (.ofValue rank)).scope.tree.leaves =
        [.bare (.path "active"),
          ⟨some (.path "role"), some (.isIn, .ofValue (.array [.string "admin", .null]))⟩,
          .empty, ⟨some (.path "age"), some (.gte, .ofValue age)⟩,
          ⟨some (.path "rank"), some (.lt, .ofValue rank)⟩] := rfl
    have hrole : Condition.compare (.path "role") .isIn
        (.ofValue (.array [.string "admin", .null])) =
          .ok ⟨some (.path "role"), some (.isIn, .ofValue (.array [.string "admin", .null]))⟩ := rfl
    have hageMade : Condition.compare (.path "age") .gte (.ofValue age) =
        .ok ⟨some (.path "age"), some (.gte, .ofValue age)⟩ := by rw [Condition.compare, hage]
    have hrankMade : Condition.compare (.path "rank") .lt (.ofValue rank) =
        .ok ⟨some (.path "rank"), some (.lt, .ofValue rank)⟩ := by rw [Condition.compare, hrank]
    intro condition hmem
    simp only [hleaves, List.mem_cons, List.not_mem_nil, or_false] at hmem
    obtain rfl | rfl | rfl | rfl | rfl := hmem
    · exact .bare (by decide)
    · exact .compare (by decide) hrole
    · exact .empty
    · exact .compare (by decide) hageMade
    · exact .compare (by decide) hrankMade
  refine ⟨(compile_plain ⟨.oracle, .passthrough, none⟩ rfl _
    (hplain (.string "18") (.bool true) rfl rfl)).1.mpr ?_,
    (compile_plain ⟨.oracle, .passthrough, none⟩ rfl _ (hplain .null .null rfl rfl)).2 "age" .gte
      rfl⟩
  exact List.findSome?_eq_none_iff.1 rfl

end Compiler

end ScopeQuery
