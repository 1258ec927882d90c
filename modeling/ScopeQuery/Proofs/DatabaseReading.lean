import ScopeQuery.Proofs.ComparisonAgreement
import ScopeQuery.Proofs.NestedExists
import ScopeQuery.Proofs.RelationComplement
import ScopeQuery.Proofs.TracedPredicates

/-!
# Predicates over a database

How a database decides a predicate about the rows in sight. A sub-query is about the rows of
its table that are tied to those around it, and is read in two ways: some of them satisfies
its conditions, which is what a database does, or all of them do, with a doubtful answer
counting in favour. The two readings are dual: a predicate in which every comparison has the
opposite operator is true in one of them where the predicate is false in the other. A single
reading has no such law, because some row and all rows are no opposites.
-/

namespace ScopeQuery

/-! ### Answers under a junction -/

namespace Junction

/-- The other junction of the opposite verdicts decides the opposite. -/
theorem decides_not (junction : Junction) (verdicts : List Bool) :
    junction.decides (verdicts.map not) = !junction.flip.decides verdicts := by
  induction verdicts with
  | nil => cases junction <;> rfl
  | cons verdict rest ih =>
    rw [List.map_cons, decides_cons, decides_cons, ih]
    cases junction <;> cases verdict <;> rfl

/-- Verdicts may be joined group by group. -/
theorem decides_flatMap {α : Type} (junction : Junction) (items : List α)
    (verdicts : α → List Bool) :
    junction.decides (items.flatMap verdicts) =
      junction.decides (items.map fun item => junction.decides (verdicts item)) := by
  induction items with
  | nil => rfl
  | cons item rest ih =>
    rw [List.map_cons, decides_cons, ← ih, List.flatMap_cons]
    cases junction with
    | and => cases hfirst : (verdicts item).all id <;> simp [decides, hfirst]
    | or => cases hfirst : (verdicts item).any id <;> simp [decides, hfirst]

/-- A single verdict decides. -/
theorem decides_singleton (junction : Junction) (verdict : Bool) :
    junction.decides [verdict] = verdict := by
  cases junction <;> cases verdict <;> rfl

/-- Whether an answer speaks for a row: where one row is asked for it has to be true, and
where all rows are it must not be false. -/
def accepts : Junction → Truth → Bool
  | .or, answer => answer == .holds
  | .and, answer => answer != .fails

/-- The opposite answer speaks for a row where the answer does not under the other
junction. -/
theorem accepts_not (junction : Junction) (answer : Truth) :
    junction.accepts answer.not = !junction.flip.accepts answer := by
  cases junction <;> cases answer <;> rfl

end Junction

/-! ### Opposite comparisons -/

namespace Truth

/-- The opposite of the opposite is the test itself. -/
theorem not_not (answer : Truth) : answer.not.not = answer := by
  cases answer <;> rfl

/-- A test denied the other way answers the opposite. -/
theorem denyIf_not (denied : Bool) (answer : Truth) :
    answer.denyIf (!denied) = (answer.denyIf denied).not := by
  cases denied with
  | true => exact (not_not answer).symm
  | false => rfl

end Truth

namespace Operator

/-- Opposite operators that are no orderings are about one relation. -/
theorem relation_negate {operator : Operator} (h : operator.isOrdering = false) :
    operator.negate.relation = operator.relation := by
  cases operator with
  | gt | gte | lt | lte => cases h
  | _ => rfl

/-- Of two opposite orderings one holds where the other does not. -/
theorem order_truth_negate (settings : MatchSettings) (left right : Value) (operator : Operator)
    (h : operator.isOrdering = true) :
    (SqlRelation.order operator.negate).truth settings left right =
      ((SqlRelation.order operator).truth settings left right).not := by
  simp only [SqlRelation.truth, unlessNull]
  cases left.isNull || right.isNull with
  | true => rfl
  | false =>
    cases left.compare right with
    | none => rfl
    | some found =>
      simp only [admits_negate h found, Bool.false_eq_true, if_false]
      cases operator.admits found <;> rfl

/-- Comparing with the opposite operator answers the opposite. -/
theorem relation_truth_negate (settings : MatchSettings) (left right : Value)
    (operator : Operator) :
    (operator.negate.relation.truth settings left right).denyIf operator.negate.isNegative =
      ((operator.relation.truth settings left right).denyIf operator.isNegative).not := by
  cases hordering : operator.isOrdering with
  | false => rw [relation_negate hordering, isNegative_negate hordering, Truth.denyIf_not]
  | true =>
    cases operator with
    | gt => exact order_truth_negate settings left right .gt rfl
    | gte => exact order_truth_negate settings left right .gte rfl
    | lt => exact order_truth_negate settings left right .lt rfl
    | lte => exact order_truth_negate settings left right .lte rfl
    | _ => cases hordering

/-- A comparison with a list has a form for an operator when it has one for the opposite,
which denies what the other asks. -/
theorem listNegated?_negate (operator : Operator) :
    (∃ refused other, listNegated? (some operator) = .error refused ∧
      listNegated? (some operator.negate) = .error other) ∨
    ∃ denied, listNegated? (some operator) = .ok denied ∧
      listNegated? (some operator.negate) = .ok !denied := by
  cases operator with
  | eq | neq | isIn | notIn => exact .inr ⟨_, rfl, rfl⟩
  | _ => exact .inl ⟨_, _, rfl, rfl⟩

end Operator

section Fragments

variable (settings : MatchSettings) (column : Argument → Value) (field value : Argument)

/-- The answer to a fragment of membership, in any kind of list. -/
theorem membership_truth?_list (denied : Bool) :
    (membership field denied value).truth? settings column =
      if value.isEmptyList then some ((Truth.ofBool false).denyIf denied)
      else value.items?.map fun items => (memberTruth (column field) items).denyIf denied := by
  unfold membership
  cases value.isEmptyList <;> cases denied <;> rfl

/-- A fragment of membership answers the opposite when it is denied the other way. -/
theorem membership_truth?_not (denied : Bool) :
    (membership field (!denied) value).truth? settings column =
      ((membership field denied value).truth? settings column).map Truth.not := by
  rw [membership_truth?_list, membership_truth?_list]
  cases value.isEmptyList with
  | true => exact congrArg some (Truth.denyIf_not _ _)
  | false =>
    cases value.items? with
    | none => rfl
    | some items => exact congrArg some (Truth.denyIf_not _ _)

/-- A null test answers the opposite for the opposite operator. -/
theorem nullTest_truth?_negate {operator : Operator} (h : operator.isOrdering = false) :
    ∃ e opposite, nullTest field operator = .ok e ∧
      nullTest field operator.negate = .ok opposite ∧
      opposite.truth? settings column = (e.truth? settings column).map Truth.not := by
  have hopposite : operator.negate.isOrdering = false := by rw [Operator.isOrdering_negate, h]
  obtain ⟨e, he, htruth⟩ := nullTest_truth? settings column field h
  obtain ⟨opposite, hnegated, hdenied⟩ := nullTest_truth? settings column field hopposite
  refine ⟨e, opposite, he, hnegated, ?_⟩
  rw [hdenied, htruth, Operator.isNegative_negate h, Truth.denyIf_not]
  rfl

end Fragments

/-! ### Predicates about the rows in sight -/

/-- The rows a predicate is about with the names they go by, the innermost first. -/
abbrev Sight := List (String × Row)

/-- What decides predicates. -/
structure Database where
  /-- The rows of each table. -/
  rows : String → List Row
  /-- How patterns are matched. -/
  settings : MatchSettings
  /-- The spelling of comparisons. -/
  dialect : Dialect
  /-- The value of an expression about the rows in sight. -/
  value : Sight → Expression → Value

/-- The value of a column: that of the row whose name stands in front of it, or that of the
innermost row. -/
def Sight.column (sight : Sight) (text : String) : Value :=
  match sight.find? fun (name, _) => (name ++ ".").isPrefixOf text with
  | some (name, row) => row.value (String.ofList (text.toList.drop (name.length + 1)))
  | none =>
    match sight with
    | [] => .null
    | (_, row) :: _ => row.value text

namespace Database

/-- The value of the first operand of a comparison. -/
def operand (database : Database) (sight : Sight) : Argument → Value
  | .literal (.string text) => sight.column text
  | .expression e => database.value sight e
  | _ => .null

/-- The answer to the fragment of a comparison; what cannot be asked has no answer. -/
def fragmentTruth (database : Database) (sight : Sight) : Except QueryError Expression → Truth
  | .ok e => (e.truth? database.settings (database.operand sight)).getD .unknown
  | .error _ => .unknown

/-- The answer to a comparison. An expression on the right stands for its value. -/
def comparisonTruth (database : Database) (sight : Sight) (field : Argument)
    (operator : Operator) : Argument → Truth
  | .expression e =>
    (operator.relation.truth database.settings (database.operand sight field)
      (database.value sight e)).denyIf operator.isNegative
  | value =>
    database.fragmentTruth sight
      (comparisonExpression database.dialect field (some operator) value)

variable (database : Database) (sight : Sight)

/-- Fragments of which one answers the opposite of the other have opposite answers. -/
theorem fragmentTruth_not {e opposite : Expression}
    (h : opposite.truth? database.settings (database.operand sight) =
      (e.truth? database.settings (database.operand sight)).map Truth.not) :
    database.fragmentTruth sight (.ok opposite) = (database.fragmentTruth sight (.ok e)).not := by
  rw [fragmentTruth, fragmentTruth, h]
  cases e.truth? database.settings (database.operand sight) <;> rfl

/-- A comparison with a list answers the opposite for the opposite operator. -/
theorem listTruth_negate (field : Argument) (operator : Operator) {value : Argument}
    (hnull : value.isNull = false) (hlist : value.isList = true) :
    database.fragmentTruth sight
        (comparisonExpression database.dialect field (some operator.negate) value) =
      (database.fragmentTruth sight
        (comparisonExpression database.dialect field (some operator) value)).not := by
  simp only [comparisonExpression, hnull, hlist, Bool.false_eq_true, if_false, if_true]
  obtain ⟨refused, other, hrefused, hother⟩ | ⟨denied, hdenied, hopposite⟩ :=
    operator.listNegated?_negate
  · rw [hrefused, hother]
    rfl
  · rw [hdenied, hopposite]
    exact database.fragmentTruth_not sight (membership_truth?_not _ _ _ _ denied)

/-- A comparison with null answers the opposite for the opposite operator. -/
theorem nullTruth_negate (field : Argument) (operator : Operator) :
    database.fragmentTruth sight (nullTest field operator.negate) =
      (database.fragmentTruth sight (nullTest field operator)).not := by
  cases hordering : operator.isOrdering with
  | true =>
    have hopposite : operator.negate.isOrdering = true := by
      rw [Operator.isOrdering_negate, hordering]
    simp only [nullTest, hordering, hopposite, if_true]
    rfl
  | false =>
    obtain ⟨e, opposite, he, hopposite, htruth⟩ :=
      nullTest_truth?_negate database.settings (database.operand sight) field hordering
    rw [he, hopposite]
    exact database.fragmentTruth_not sight htruth

/-- A comparison answers the opposite for the opposite operator, whatever it compares. -/
theorem comparisonTruth_negate (field : Argument) (operator : Operator) (value : Argument) :
    database.comparisonTruth sight field operator.negate value =
      (database.comparisonTruth sight field operator value).not := by
  cases value with
  | expression e => exact Operator.relation_truth_negate ..
  | list items => exact database.listTruth_negate sight field operator rfl rfl
  | statement s =>
    -- A sub-query on the right is not read, whatever the operator.
    have hnone (other : Operator) : database.comparisonTruth sight field other (.statement s) =
        .unknown := by
      cases other <;> cases hdialect : database.dialect <;>
        simp only [comparisonTruth, comparisonExpression, hdialect] <;> rfl
    rw [hnone, hnone]
    rfl
  | literal value =>
    cases hnull : value.isNull with
    | true =>
      simp only [comparisonTruth, comparisonExpression_null hnull]
      exact database.nullTruth_negate sight field operator
    | false =>
      cases harray : value.isArray with
      | true =>
        have hlist : (Argument.literal value).isList = true := by
          cases value with
          | array items => rfl
          | _ => cases harray
        have hfilled : (Argument.literal value).isNull = false := by
          cases value with
          | null => cases hnull
          | _ => rfl
        exact database.listTruth_negate sight field operator hfilled hlist
      | false =>
        simp only [comparisonTruth, comparisonExpression_scalar hnull harray, Option.getD_some]
        refine database.fragmentTruth_not sight ?_
        rw [comparison_truth?, comparison_truth?, Operator.relation_truth_negate]
        rfl

end Database

/-! ### Predicates -/

mutual

/-- Whether a predicate holds, where sub-queries are about some or all of the rows. -/
def Predicate.holdsIn (database : Database) (asked : Junction) (sight : Sight) :
    Predicate → Bool
  | .comparison field operator value =>
    asked.accepts (database.comparisonTruth sight field (operator.getD .eq) value)
  | .fragment fragment => fragment.holdsIn database asked sight
  | .group junction parts => junction.decides (partsHold database asked sight parts)

/-- Whether each of several predicates holds. -/
def partsHold (database : Database) (asked : Junction) (sight : Sight) :
    List Predicate → List Bool
  | [] => []
  | part :: rest => part.holdsIn database asked sight :: partsHold database asked sight rest

/-- Whether a fragment holds; of the arguments only expressions are true or false. -/
def Argument.holdsIn (database : Database) (asked : Junction) (sight : Sight) : Argument → Bool
  | .expression e => e.holdsIn database asked sight
  | _ => false

/-- Whether an expression holds: a sub-query that has to have rows, or two columns that have
to be equal. Other expressions are not read. -/
def Expression.holdsIn (database : Database) (asked : Junction) (sight : Sight) :
    Expression → Bool
  | ⟨some "exists []", [.statement s], _, _⟩ => s.holdsIn database asked sight
  | ⟨some "\x7b\x7b\x7d\x7d = \x7b\x7b\x7d\x7d", [left, right], _, _⟩ =>
    asked.accepts (equalityTruth (database.operand sight left) (database.operand sight right))
  | _ => false

/-- Whether some or all of the rows that a sub-query on one table is about satisfy its
conditions. The first predicate ties these rows to the ones around them. -/
def Statement.holdsIn (database : Database) (asked : Junction) (sight : Sight) :
    Statement → Bool
  | ⟨_, _, _, _, [⟨some name, .literal (.string table)⟩], _, tie :: conditions, _, _, _, _, _⟩ =>
    asked.decides (((database.rows table).filter fun row =>
        tie.holdsIn database .or ((name, row) :: sight)).map fun row =>
      Junction.and.decides (partsHold database asked ((name, row) :: sight) conditions))
  | _ => false

end

/-- Whether all predicates of a statement on one table hold for a row of it. -/
def Database.selects (database : Database) (asked : Junction) (name : String) (row : Row)
    (predicates : List Predicate) : Bool :=
  Junction.and.decides (partsHold database asked [(name, row)] predicates)

end ScopeQuery
