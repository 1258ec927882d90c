import ScopeQuery.Error.Compile

/-!
# Match errors

What can go wrong while rows are matched: conditions that only a database can
decide, values an operator does not compare, patterns that are not valid or grow
too large, and the errors of resolving and encoding a condition.
-/

namespace ScopeQuery

/-- An error of matching a row. -/
inductive MatchError where
  /-- The condition cannot be decided by a row alone. -/
  | undecidable (condition : String)
  /-- The operator does not compare values of these kinds. -/
  | incomparable (operator : Operator) (left right : String)
  /-- The pattern is not valid, or needs more memory than allowed. -/
  | invalidPattern (pattern : String)
  /-- An error of the condition. -/
  | query (error : QueryError)
  /-- An error of the field's codec. -/
  | compile (error : CompileError)
deriving DecidableEq

/-- The wording of an error. -/
def MatchError.message : MatchError → String
  | .undecidable condition => "Unsupported condition format: " ++ condition
  | .incomparable operator left right =>
    "Unsupported operator " ++ operator.sql ++ " for " ++ left ++ " and " ++ right
  | .invalidPattern pattern => "Invalid pattern \"" ++ pattern ++ "\""
  | .query error => error.message
  | .compile error => error.message

end ScopeQuery
