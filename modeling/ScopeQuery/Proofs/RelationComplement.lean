import ScopeQuery.Proofs.Mirrored
import ScopeQuery.Matching.Relation

/-!
# Opposite relations

An operator and its opposite decide a row's scalar alike: both fail, or exactly one
of them holds. The expected value is any value at all, since an encoder may turn it
into null, a list or a value of another kind.
-/

namespace ScopeQuery

/-- Whether the value is a truth value, a number or a text. -/
def Value.isScalar : Value → Bool
  | .bool _ => true
  | .number _ => true
  | .string _ => true
  | _ => false

/-- No scalar is null. -/
theorem Value.isNull_of_scalar {value : Value} (h : value.isScalar = true) :
    value.isNull = false := by
  cases value <;> simp_all [isScalar, isNull]

/-- Every scalar has a text for patterns. -/
theorem Value.patternText?_of_scalar {value : Value} (h : value.isScalar = true) :
    ∃ text, value.patternText? = some text := by
  cases value <;> simp_all [isScalar, patternText?]

namespace Operator

/-- The opposite of an ordering is an ordering. -/
theorem isOrdering_negate (operator : Operator) :
    operator.negate.isOrdering = operator.isOrdering := by
  cases operator <;> rfl

/-- Of two opposites that are no orderings, one is the negated one. -/
theorem isNegative_negate {operator : Operator} (h : operator.isOrdering = false) :
    operator.negate.isNegative = !operator.isNegative := by
  cases operator with
  | gt | gte | lt | lte => exact absurd h (by simp [isOrdering])
  | _ => rfl

/-- Of two opposite orderings, exactly one admits an order. -/
theorem admits_negate {operator : Operator} (h : operator.isOrdering = true) (order : Ordering) :
    operator.negate.admits order = !operator.admits order := by
  cases operator with
  | gt | gte | lt | lte => cases order <;> rfl
  | _ => exact absurd h (by simp [isOrdering])

end Operator

/-- A scalar is outside a value exactly when it is no member of it. -/
theorem Value.isOutside_of_scalar {left : Value} (h : left.isScalar = true) (right : Value) :
    left.isOutside right = !left.isMemberOf right := by
  unfold isOutside
  split
  · rfl
  · rw [isNull_of_scalar h]
    rfl

/-- Opposite comparisons with null mirror each other. -/
theorem compareNull_negate (operator : Operator) (left : Value) :
    Mirrored not (compareNull operator left) (compareNull operator.negate left) := by
  unfold compareNull
  rw [Operator.isOrdering_negate]
  cases hordering : operator.isOrdering with
  | true => exact .failed _ _
  | false =>
    refine .of_eq ?_
    rw [Operator.isNegative_negate hordering]
    cases left.isNull <;> cases operator.isNegative <;> rfl

/-- Opposite orderings of a scalar mirror each other; where there is no order, both fail. -/
theorem compareOrder_negate {operator : Operator} (hordering : operator.isOrdering = true)
    {left : Value} (hleft : left.isScalar = true) (right : Value) :
    Mirrored not (compareOrder operator left right) (compareOrder operator.negate left right) := by
  unfold compareOrder
  rw [Value.isNull_of_scalar hleft]
  cases left.compare right with
  | none => exact .failed _ _
  | some order => exact .of_eq (Operator.admits_negate hordering order)

/-- Matching a pattern and not matching it mirror each other on a scalar; both fail when the
pattern is no text or not valid. -/
theorem comparePattern_negate {operator : Operator} (hordering : operator.isOrdering = false)
    {left : Value} (hleft : left.isScalar = true) (right : Value)
    (matched : String → String → Except MatchError Bool) :
    Mirrored not (comparePattern operator left right matched)
      (comparePattern operator.negate left right matched) := by
  obtain ⟨text, htext⟩ := Value.patternText?_of_scalar hleft
  unfold comparePattern
  rw [htext]
  cases right.string? with
  | none => exact .failed _ _
  | some pattern =>
    dsimp only
    cases matched text pattern with
    | error error => exact .failed _ _
    | ok result =>
      refine .of_eq ?_
      rw [Operator.isNegative_negate hordering]
      cases result <;> cases operator.isNegative <;> rfl

/-- Opposite operators mirror each other on a scalar and a value that is not null. -/
theorem valueRelationHolds_negate (settings : MatchSettings) {left : Value}
    (hleft : left.isScalar = true) (operator : Operator) (right : Value) :
    Mirrored not (valueRelationHolds settings left operator right)
      (valueRelationHolds settings left operator.negate right) := by
  -- On a scalar the two ways to deny equality, with a list and without, are one.
  have houtside := Value.isOutside_of_scalar hleft right
  have hneq : (if right.isArray then left.isOutside right else !left.eq right) =
      !left.isMemberOf right := by
    cases right with
    | array items => simpa [Value.isArray] using houtside
    | _ => rfl
  cases operator with
  | eq => exact .of_eq hneq
  | neq => exact .of_eq (by rw [hneq, Bool.not_not])
  | isIn => exact .of_eq houtside
  | notIn => exact .of_eq (by rw [houtside, Bool.not_not])
  | gt => exact compareOrder_negate rfl hleft right
  | gte => exact compareOrder_negate rfl hleft right
  | lt => exact compareOrder_negate rfl hleft right
  | lte => exact compareOrder_negate rfl hleft right
  | like => exact comparePattern_negate rfl hleft right _
  | notLike => exact comparePattern_negate rfl hleft right _
  | regexp => exact comparePattern_negate rfl hleft right _
  | notRegexp => exact comparePattern_negate rfl hleft right _

/-- Opposite operators mirror each other on a scalar and any value. -/
theorem relationHolds_negate (settings : MatchSettings) {left : Value}
    (hleft : left.isScalar = true) (operator : Operator) (right : Value) :
    Mirrored not (relationHolds settings left operator right)
      (relationHolds settings left operator.negate right) := by
  unfold relationHolds
  split
  · exact compareNull_negate operator left
  · exact valueRelationHolds_negate settings hleft operator right

end ScopeQuery
