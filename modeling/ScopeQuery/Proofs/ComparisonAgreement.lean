import ScopeQuery.Proofs.MembershipAgreement

/-!
# Comparison with null and with one value

What the fragment of a comparison with null or with a single value answers, beside what the
matcher decides. Both refuse to order anything by null, and no other comparison lacks a
fragment. Where the matcher decides, it decides as the fragment answers, except that a row's
null differs from every other value for the matcher and from none for a database.
-/

namespace ScopeQuery

/-- The relation a comparison with one value is about. -/
def Operator.relation : Operator → SqlRelation
  | .eq | .neq | .isIn | .notIn => .equality
  | .gt => .order .gt
  | .gte => .order .gte
  | .lt => .order .lt
  | .lte => .order .lte
  | .like | .notLike => .wildcards
  | .regexp | .notRegexp => .regex

section Fragments

variable {settings : MatchSettings} {column : Argument → Value} {dialect : Dialect}
  {field : Argument}

/-- Membership in the list of one value is equality with it. -/
theorem memberTruth_singleton (left item : Value) :
    memberTruth left [item] = equalityTruth left item := by
  rw [memberTruth, memberTruth]
  cases equalityTruth left item <;> rfl

/-- A null test answers whether the field is null. -/
theorem nullTest_truth? (settings : MatchSettings) (column : Argument → Value)
    (field : Argument) {operator : Operator} (hordering : operator.isOrdering = false) :
    ∃ e, nullTest field operator = .ok e ∧
      e.truth? settings column =
        some ((Truth.ofBool (column field).isNull).denyIf operator.isNegative) := by
  cases hnegative : operator.isNegative with
  | true => exact ⟨_, by rw [nullTest, hordering, hnegative]; rfl, rfl⟩
  | false => exact ⟨_, by rw [nullTest, hordering, hnegative]; rfl, rfl⟩

/-- A comparison with null is a null test. -/
theorem comparisonExpression_null {written : Option Operator} {value : Value}
    (hnull : value.isNull = true) :
    comparisonExpression dialect field written (.literal value) =
      nullTest field (written.getD .eq) := by
  cases value <;> first | rfl | cases hnull

/-- The fragment of a comparison with one value answers whether the relation of its operator
holds, or does not. -/
theorem comparison_truth? (operator : Operator) (value : Value) :
    (Expression.ofTemplate (comparisonTemplate operator dialect)
      [field, comparedValue operator (.literal value)]).truth? settings column =
      some ((operator.relation.truth settings (column field) value).denyIf
        operator.isNegative) := by
  simp only [Expression.truth?, Expression.ofTemplate, Option.bind_some,
    FragmentTest.ofTemplate?_comparisonTemplate]
  cases operator with
  | isIn =>
    exact congrArg (fun answer => some (Truth.denyIf false answer)) (memberTruth_singleton ..)
  | notIn =>
    exact congrArg (fun answer => some (Truth.denyIf true answer)) (memberTruth_singleton ..)
  | _ => rfl

/-- A comparison with one value that is not null has the template of its operator. -/
theorem comparisonExpression_scalar {written : Option Operator} {value : Value}
    (hnull : value.isNull = false) (harray : value.isArray = false) :
    comparisonExpression dialect field written (.literal value) =
      .ok (.ofTemplate (comparisonTemplate (written.getD .eq) dialect)
        [field, comparedValue (written.getD .eq) (.literal value)]) := by
  cases value with
  | null => cases hnull
  | array items => cases harray
  | _ => rfl

end Fragments

section Decisions

variable {settings : MatchSettings} {left right : Value} {operator : Operator} {decision : Bool}

/-- Equality is true where the matcher finds it. -/
theorem equalityTruth_agrees (hright : right.isNull = false) :
    equalityTruth left right = .holds ↔ left.eq right = true := by
  rw [equalityTruth_eq_holds, Value.eq_swap right left]
  exact ⟨And.right, fun hequal => ⟨Value.isNull_of_eq hright hequal, hequal⟩⟩

/-- Equality is false of a value that is not null and differs. -/
theorem equalityTruth_denied (hright : right.isNull = false) :
    (equalityTruth left right).not = .holds ↔ left.isNull = false ∧ left.eq right = false := by
  rw [Truth.not_eq_holds, equalityTruth_eq_fails, Value.eq_swap right left]
  simp [hright]

/-- An order holds where the matcher decides that it does. -/
theorem compareOrder_agrees (hright : right.isNull = false)
    (h : compareOrder operator left right = .ok decision) :
    (SqlRelation.order operator).truth settings left right = .holds ↔ decision = true := by
  rw [compareOrder] at h
  rw [SqlRelation.truth, unlessNull, hright, Bool.or_false]
  cases hleft : left.isNull with
  | true =>
    simp only [hleft, if_true, Except.ok.injEq] at h
    simp [← h]
  | false =>
    simp only [hleft, Bool.false_eq_true, if_false] at h ⊢
    cases hcompare : left.compare right with
    | none => simp [hcompare] at h
    | some order => simp_all

/-- A pattern is matched, or not, where the matcher decides so. -/
theorem comparePattern_agrees {matched : String → String → Except MatchError Bool}
    (hright : right.isNull = false)
    (h : comparePattern operator left right matched = .ok decision) :
    (unlessNull left right (patternTruth matched left right)).denyIf operator.isNegative =
      .holds ↔ decision = true := by
  rw [comparePattern] at h
  rw [unlessNull, hright, Bool.or_false, patternTruth]
  cases htext : left.patternText? with
  | none =>
    -- A value without a text, null among them, answers unknown.
    simp only [htext, Except.ok.injEq] at h
    cases left.isNull <;> cases operator.isNegative <;> simp [← h, Truth.denyIf, Truth.not]
  | some text =>
    have hleft : left.isNull = false := by
      cases left with
      | null => cases htext
      | _ => rfl
    cases hpattern : right.string? with
    | none => simp [htext, hpattern] at h
    | some pattern =>
      cases hmatched : matched text pattern with
      | error error => simp [htext, hpattern, hmatched] at h
      | ok result =>
        simp only [htext, hpattern, hmatched, Except.ok.injEq] at h
        simp only [hleft, Bool.false_eq_true, if_false, Truth.denyIf_ofBool_eq_holds, h,
          hmatched]

/-- For a single value that is not null, the matcher decides as a database answers, except
that for it null differs from the value. -/
theorem valueRelationHolds_agrees (hright : right.isNull = false) (harray : right.isArray = false)
    (h : valueRelationHolds settings left operator right = .ok decision) :
    (operator.relation.truth settings left right).denyIf operator.isNegative = .holds ↔
      decision = true ∧ ¬(operator = .neq ∧ left.isNull = true) := by
  have hmember : left.isMemberOf right = left.eq right := by
    cases right <;> first | rfl | cases harray
  have houtside : left.isOutside right = (!left.isNull && !left.eq right) := by
    rw [← hmember]
    cases right <;> first | rfl | cases harray
  cases operator with
  | eq | isIn =>
    simp only [valueRelationHolds, hmember, Except.ok.injEq] at h
    simpa [← h, Operator.relation, Operator.isNegative, Truth.denyIf, SqlRelation.truth] using
      equalityTruth_agrees hright
  | neq =>
    simp only [valueRelationHolds, harray, Bool.false_eq_true, if_false, Except.ok.injEq] at h
    simpa [← h, Operator.relation, Operator.isNegative, Truth.denyIf, SqlRelation.truth,
      and_comm] using equalityTruth_denied hright
  | notIn =>
    simp only [valueRelationHolds, houtside, Except.ok.injEq] at h
    simpa [← h, Operator.relation, Operator.isNegative, Truth.denyIf, SqlRelation.truth] using
      equalityTruth_denied hright
  | gt | gte | lt | lte =>
    simpa [Operator.relation, Operator.isNegative, Truth.denyIf] using compareOrder_agrees hright h
  | like | notLike | regexp | notRegexp =>
    refine (comparePattern_agrees hright h).trans ?_
    simp

/-- A pattern is refused for what it is, not for the condition. -/
theorem comparePattern_ne_query {matched : String → String → Except MatchError Bool}
    (hmatched : ∀ text pattern error, matched text pattern ≠ .error (.query error))
    (error : QueryError) : comparePattern operator left right matched ≠ .error (.query error) := by
  unfold comparePattern
  grind [MatchError.ofValues]

/-- A value that is not null is refused for what it is, not for the condition. -/
theorem valueRelationHolds_ne_query (settings : MatchSettings) (left : Value)
    (operator : Operator) (right : Value) (error : QueryError) :
    valueRelationHolds settings left operator right ≠ .error (.query error) := by
  have horder (ordering : Operator) :
      compareOrder ordering left right ≠ .error (.query error) := by
    unfold compareOrder
    grind [MatchError.ofValues]
  cases operator with
  | eq | neq | isIn | notIn => exact nofun
  | gt | gte | lt | lte => exact horder _
  | like | notLike =>
    refine comparePattern_ne_query (fun text pattern error => ?_) error
    simp only [matchesWildcards]
    split <;> exact nofun
  | regexp | notRegexp =>
    refine comparePattern_ne_query (fun text pattern error => ?_) error
    simp only [matchesRegex]
    split
    · exact nofun
    · split <;> exact nofun

end Decisions

section Agreement

variable {settings : MatchSettings} {dialect : Dialect} {column : Argument → Value}
  {field : Argument} {written : Option Operator} {value : Value}

/-- A comparison with null or one value lacks a fragment only for want of an order by null. -/
theorem comparisonExpression_orderOfNull (harray : value.isArray = false) :
    (∃ subject refused, comparisonExpression dialect field written (.literal value) =
        .error (.orderOfNull subject refused)) ↔
      value.isNull = true ∧ (written.getD .eq).isOrdering = true := by
  cases hnull : value.isNull with
  | false => simp [comparisonExpression_scalar hnull harray]
  | true =>
    rw [comparisonExpression_null hnull, nullTest]
    split
    · simp_all
    · split <;> simp_all

/-- The matcher refuses to order by null, and refuses nothing else in that way. -/
theorem relationHolds_orderOfNull {left : Value} {operator : Operator} :
    (∃ subject refused, relationHolds settings left operator value =
        .error (.query (.orderOfNull subject refused))) ↔
      value.isNull = true ∧ operator.isOrdering = true := by
  rw [relationHolds]
  cases hnull : value.isNull with
  | false => simp [valueRelationHolds_ne_query]
  | true =>
    rw [if_pos rfl, compareNull]
    cases operator.isOrdering <;> simp

/-- Unless it orders by null, a comparison with null or one value has a fragment, which is
true where the matcher decides so and null does not differ from the value. -/
theorem comparisonExpression_agrees (harray : value.isArray = false)
    (hallowed : ¬(value.isNull = true ∧ (written.getD .eq).isOrdering = true)) :
    ∃ e answer,
      comparisonExpression dialect field written (.literal value) = .ok e ∧
      e.truth? settings column = some answer ∧
      ∀ decision,
        relationHolds settings (column field) (written.getD .eq) value = .ok decision →
        (answer = .holds ↔ decision = true ∧
          ¬(written.getD .eq = .neq ∧ (column field).isNull = true ∧ value.isNull = false)) := by
  cases hnull : value.isNull with
  | false =>
    refine ⟨_, _, comparisonExpression_scalar hnull harray, comparison_truth? .., ?_⟩
    intro decision hdecision
    rw [relationHolds, hnull, if_neg Bool.false_ne_true] at hdecision
    simpa using valueRelationHolds_agrees hnull harray hdecision
  | true =>
    have hordering : (written.getD .eq).isOrdering = false := by simpa [hnull] using hallowed
    obtain ⟨e, htest, htruth⟩ := nullTest_truth? settings column field hordering
    refine ⟨e, _, by rw [comparisonExpression_null hnull, htest], htruth, ?_⟩
    intro decision hdecision
    rw [relationHolds, if_pos hnull, compareNull, hordering] at hdecision
    simp only [Bool.false_eq_true, if_false, Except.ok.injEq] at hdecision
    simp [Truth.denyIf_ofBool_eq_holds, ← hdecision]

/-- The fragment of a comparison with null or one value and the decision of the matcher
agree. Both refuse an order by null and only that, every other comparison has a fragment with
an answer, and the answer is true exactly where the matcher decides so; only null in a row
differs from other values for the matcher alone. -/
theorem comparison_agrees_but_for_null_row (settings : MatchSettings) (dialect : Dialect)
    (column : Argument → Value) (field : Argument) (written : Option Operator) (value : Value)
    (harray : value.isArray = false) :
    ((∃ subject refused, comparisonExpression dialect field written (.literal value) =
        .error (.orderOfNull subject refused)) ↔
      value.isNull = true ∧ (written.getD .eq).isOrdering = true) ∧
    ((∃ subject refused, relationHolds settings (column field) (written.getD .eq) value =
        .error (.query (.orderOfNull subject refused))) ↔
      value.isNull = true ∧ (written.getD .eq).isOrdering = true) ∧
    (¬(value.isNull = true ∧ (written.getD .eq).isOrdering = true) →
      ∃ e answer,
        comparisonExpression dialect field written (.literal value) = .ok e ∧
        e.truth? settings column = some answer ∧
        ∀ decision,
          relationHolds settings (column field) (written.getD .eq) value = .ok decision →
          (answer = .holds ↔ decision = true ∧
            ¬(written.getD .eq = .neq ∧ (column field).isNull = true ∧
              value.isNull = false))) :=
  ⟨comparisonExpression_orderOfNull harray, relationHolds_orderOfNull,
    comparisonExpression_agrees harray⟩

/-- A text that a row with null is to differ from. -/
theorem comparison_agrees_on_null_row :
    (Value.string "b").isArray = false ∧
    ((∃ subject refused, comparisonExpression .mysql (.text "grade") (some .neq)
        (.literal (.string "b")) = .error (.orderOfNull subject refused)) ↔
      (Value.string "b").isNull = true ∧ Operator.neq.isOrdering = true) ∧
    ((∃ subject refused, relationHolds {} .null .neq (.string "b") =
        .error (.query (.orderOfNull subject refused))) ↔
      (Value.string "b").isNull = true ∧ Operator.neq.isOrdering = true) ∧
    (¬((Value.string "b").isNull = true ∧ Operator.neq.isOrdering = true) →
      ∃ e answer,
        comparisonExpression .mysql (.text "grade") (some .neq)
          (.literal (.string "b")) = .ok e ∧
        e.truth? {} (fun _ => .null) = some answer ∧
        ∀ decision,
          relationHolds {} .null .neq (.string "b") = .ok decision →
          (answer = .holds ↔ decision = true ∧
            ¬(Operator.neq = .neq ∧ Value.null.isNull = true ∧
              (Value.string "b").isNull = false))) :=
  ⟨rfl, comparison_agrees_but_for_null_row {} .mysql (fun _ => .null) (.text "grade") (some .neq)
    (.string "b") rfl⟩

end Agreement

end ScopeQuery
