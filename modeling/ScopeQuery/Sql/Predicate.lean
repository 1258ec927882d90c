import ScopeQuery.Error.Query
import ScopeQuery.Sql.Syntax

/-!
# Predicates

The expression a predicate becomes in a dialect. A null value turns
a comparison into a null test and a list turns it into membership, an empty list
into a constant; groups become their parts with the junction between them, in
parentheses when there are several.
-/

namespace ScopeQuery

/-- The template of a comparison of two operands. -/
def comparisonTemplate : Operator → Dialect → String
  | .like, .postgres => "\x7b\x7b\x7d\x7d ilike []"
  | .notLike, .postgres => "\x7b\x7b\x7d\x7d not ilike []"
  | .like, .mysql => "\x7b\x7b\x7d\x7d like []"
  | .notLike, .mysql => "\x7b\x7b\x7d\x7d not like []"
  | .regexp, .postgres => "\x7b\x7b\x7d\x7d ~ []"
  | .notRegexp, .postgres => "\x7b\x7b\x7d\x7d !~ []"
  | .regexp, .oracle => "regexp_like(\x7b\x7b\x7d\x7d, [])"
  | .notRegexp, .oracle => "not regexp_like(\x7b\x7b\x7d\x7d, [])"
  | .eq, _ => "\x7b\x7b\x7d\x7d = []"
  | .neq, _ => "\x7b\x7b\x7d\x7d != []"
  | .gt, _ => "\x7b\x7b\x7d\x7d > []"
  | .gte, _ => "\x7b\x7b\x7d\x7d >= []"
  | .lt, _ => "\x7b\x7b\x7d\x7d < []"
  | .lte, _ => "\x7b\x7b\x7d\x7d <= []"
  | .like, _ => "\x7b\x7b\x7d\x7d like [] escape '\\'"
  | .notLike, _ => "\x7b\x7b\x7d\x7d not like [] escape '\\'"
  | .isIn, _ => "\x7b\x7b\x7d\x7d in []"
  | .notIn, _ => "\x7b\x7b\x7d\x7d not in []"
  | .regexp, _ => "\x7b\x7b\x7d\x7d regexp []"
  | .notRegexp, _ => "\x7b\x7b\x7d\x7d not regexp []"

/-- The null test of a comparison with null. Null has no order. -/
def nullTest (field : Argument) (operator : Operator) : Except QueryError Expression :=
  if operator.isOrdering then
    .error (.orderOfNull field.describe operator)
  else if operator.isNegative then .ok (.ofTemplate "\x7b\x7b\x7d\x7d is not null" [field])
  else .ok (.ofTemplate "\x7b\x7b\x7d\x7d is null" [field])

/-- Whether a comparison with a list asks for non-membership; an operator
without a list form has no answer. -/
def listNegated? : Option Operator → Except Operator Bool
  | none => .ok false
  | some .eq => .ok false
  | some .isIn => .ok false
  | some .neq => .ok true
  | some .notIn => .ok true
  | some operator => .error operator

/-- The membership test of a comparison with a list. Nothing is a member of the
empty list. -/
def membership (field : Argument) (negated : Bool) (list : Argument) : Expression :=
  if list.isEmptyList then .ofTemplate (if negated then "1 = 1" else "1 = 0")
  else if negated then .ofTemplate "\x7b\x7b\x7d\x7d not in []" [field, list]
  else .ofTemplate "\x7b\x7b\x7d\x7d in []" [field, list]

/-- The second operand of a comparison: membership in a single value is written
as membership in the list of it. -/
def comparedValue (operator : Operator) (value : Argument) : Argument :=
  match operator, value with
  | .isIn, .literal scalar => .list [.literal scalar]
  | .notIn, .literal scalar => .list [.literal scalar]
  | _, value => value

/-- The expression of a comparison. -/
def comparisonExpression (dialect : Dialect) (field : Argument)
    (operator : Option Operator) (value : Argument) : Except QueryError Expression :=
  if value.isNull then nullTest field (operator.getD .eq)
  else if value.isList then
    match listNegated? operator with
    | .ok negated => .ok (membership field negated value)
    | .error operator => .error (.unfitValue (.listOperator value.describe operator))
  else
    let operator := operator.getD .eq
    .ok (.ofTemplate (comparisonTemplate operator dialect) [field, comparedValue operator value])

/-- Parts with a junction between them; a single part stands alone. -/
def joinParts (junction : Junction) : List Expression → Option Expression
  | [] => none
  | [part] => some part
  | parts => some
    { template := some (Text.joined (" " ++ junction.sql ++ " ") (parts.map fun _ => "[]"))
      operands := parts.map .expression
      wrapped := true }

mutual

/-- The expression of a predicate; a group without parts has none. -/
def Predicate.toExpression (dialect : Dialect) :
    Predicate → Except QueryError (Option Expression)
  | .comparison field operator value =>
    match comparisonExpression dialect field operator value with
    | .ok e => .ok (some e)
    | .error error => .error error
  | .fragment fragment => .ok (some (.ofTemplate "[]" [fragment]))
  | .group junction predicates =>
    match predicateExpressions dialect predicates with
    | .ok parts => .ok (joinParts junction parts)
    | .error error => .error error

/-- The expressions of the predicates that have one, in order. -/
def predicateExpressions (dialect : Dialect) :
    List Predicate → Except QueryError (List Expression)
  | [] => .ok []
  | predicate :: rest =>
    match predicate.toExpression dialect with
    | .error error => .error error
    | .ok part =>
      match predicateExpressions dialect rest with
      | .error error => .error error
      | .ok parts => .ok (part.toList ++ parts)

end

end ScopeQuery
