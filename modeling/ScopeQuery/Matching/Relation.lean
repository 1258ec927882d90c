import ScopeQuery.Matching.Wildcard
import ScopeQuery.Regex.Pattern
import ScopeQuery.Value.Text

/-!
# Comparing values

Whether a value of a row and the value of a condition stand in the relation of an
operator. Comparisons with null ask for null, lists ask for membership, and order
and patterns are defined for some kinds of values only.
-/

namespace ScopeQuery

/-- Whether a text contains a match of a regular expression. -/
def matchesRegex (settings : MatchSettings) (text pattern : String) : Except MatchError Bool :=
  match Regex.ofPattern? pattern with
  | none => .error (.invalidPattern pattern)
  | some regex =>
    if regex.footprint ≤ settings.sizeLimit then .ok (regex.occursIn text.toList)
    else .error (.invalidPattern pattern)

namespace Value

/-- Whether a value is among the items of a list, or equal to another value. -/
def isMemberOf (left right : Value) : Bool :=
  match right with
  | .array items => items.any fun item => item.eq left
  | right => left.eq right

/-- Whether a value is outside a list. Null is outside the empty list only. -/
def isOutside (left right : Value) : Bool :=
  match right with
  | .array [] => true
  | right => !left.isNull && !left.isMemberOf right

/-- The text that patterns are matched against: numbers and truth values as SQL
writes them, and none for other values. -/
def patternText? : Value → Option String
  | .string s => some s
  | .number x => some (Value.number x).text
  | .bool b => some (if b then "1" else "0")
  | _ => none

end Value

/-- Whether an order between two values is one an operator asks for. -/
def Operator.admits (order : Ordering) : Operator → Bool
  | .gt => order == .gt
  | .gte => order != .lt
  | .lt => order == .lt
  | .lte => order != .gt
  | _ => false

/-- The error of an operator that does not compare two values. -/
def MatchError.ofValues (operator : Operator) (left right : Value) : MatchError :=
  .incomparable operator left.typeName right.typeName

/-- Compares by order. Null in a row has no order and satisfies nothing. -/
def compareOrder (operator : Operator) (left right : Value) : Except MatchError Bool :=
  if left.isNull then .ok false
  else
    match left.compare right with
    | some order => .ok (operator.admits order)
    | none => .error (.ofValues operator left right)

/-- Matches a pattern. A value without a text satisfies neither a pattern nor its
negation. -/
def comparePattern (operator : Operator) (left right : Value)
    (matched : String → String → Except MatchError Bool) : Except MatchError Bool :=
  match left.patternText? with
  | none => .ok false
  | some text =>
    match right.string? with
    | none => .error (.ofValues operator left right)
    | some pattern =>
      match matched text pattern with
      | .ok result => .ok (result != operator.isNegative)
      | .error error => .error error

/-- Compares the value of a row with null. -/
def compareNull (operator : Operator) (left : Value) : Except MatchError Bool :=
  if operator.isOrdering then .error (.query (.orderOfNull left.text operator))
  else .ok (left.isNull != operator.isNegative)

/-- Whether the value of a row stands in a relation to a value that is not null. -/
def valueRelationHolds (settings : MatchSettings) (left : Value) (operator : Operator)
    (right : Value) : Except MatchError Bool :=
  match operator with
  | .eq | .isIn => .ok (left.isMemberOf right)
  | .neq => .ok (if right.isArray then left.isOutside right else !left.eq right)
  | .notIn => .ok (left.isOutside right)
  | .gt | .gte | .lt | .lte => compareOrder operator left right
  | .like | .notLike => comparePattern operator left right (matchesWildcards settings)
  | .regexp | .notRegexp => comparePattern operator left right (matchesRegex settings)

/-- Whether the value of a row and that of a condition stand in a relation. -/
def relationHolds (settings : MatchSettings) (left : Value) (operator : Operator) (right : Value) :
    Except MatchError Bool :=
  if right.isNull then compareNull operator left
  else valueRelationHolds settings left operator right

end ScopeQuery
