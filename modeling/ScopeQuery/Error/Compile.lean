import ScopeQuery.Error.Query

/-!
# Compile errors

What can go wrong while a scope is compiled into a statement: errors of the
query itself, names that are not known, and values a codec cannot encode. An
error that ends the filling of a statement carries that statement.
-/

namespace ScopeQuery

/-- An error of compiling a scope. -/
inductive CompileError where
  /-- An error of the query. -/
  | query (error : QueryError)
  /-- An entity has no link of this name. -/
  | unknownLink (entity hop : String)
  /-- An entity has no field of this name. -/
  | unknownField (entity field : String)
  /-- A value cannot be encoded for a field. -/
  | encoding (field : String) (operator : Option Operator) (value message : String)
  /-- Another error, in a statement that was being filled. -/
  | inStatement (statement : String) (cause : CompileError)
deriving DecidableEq

/-- The name of an operator in the message about a failed encoding. -/
def Operator.label : Operator → String
  | .eq => "Eq"
  | .neq => "Neq"
  | .gt => "Gt"
  | .gte => "Gte"
  | .lt => "Lt"
  | .lte => "Lte"
  | .like => "Like"
  | .notLike => "NotLike"
  | .isIn => "In"
  | .notIn => "NotIn"
  | .regexp => "Regexp"
  | .notRegexp => "NotRegexp"

namespace CompileError

/-- An operator that may be missing, in the message about a failed encoding. -/
def operatorLabel : Option Operator → String
  | some operator => "Some(" ++ operator.label ++ ")"
  | none => "None"

/-- The wording of an error. -/
def message : CompileError → String
  | .query error => error.message
  | .unknownLink entity hop =>
    "Unknown relationship \"" ++ hop ++ "\" on " ++ entity
  | .unknownField entity field => "Unknown field \"" ++ field ++ "\" on " ++ entity
  | .encoding field operator value message =>
    "Codec for field \"" ++ field ++ "\" cannot encode " ++ value ++ " with operator " ++
      operatorLabel operator ++ ": " ++ message
  | .inStatement statement cause =>
    message cause ++ " (in statement: " ++ statement ++ ")"

/-- The error without the statements around it. -/
def rootCause : CompileError → CompileError
  | .inStatement _ cause => rootCause cause
  | error => error

end CompileError

end ScopeQuery
