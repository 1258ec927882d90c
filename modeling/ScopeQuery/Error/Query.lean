import ScopeQuery.Vocabulary.Mode
import ScopeQuery.Vocabulary.Operator

/-!
# Query errors

What can go wrong while conditions and statements are built, read and rendered.
Each error is its cause; the wording is in one place for each kind.
-/

namespace ScopeQuery

/-- Why a value does not fit where it stands. -/
inductive ValueProblem where
  /-- A list was compared with an operator that has no list form. -/
  | listOperator (list : String) (operator : Operator)
  /-- A condition was given a list its operator does not accept. -/
  | listRefused (operator : Operator)
  /-- An item of a list is itself an array or object. -/
  | nestedList
  /-- A condition was given an object. -/
  | objectValue
  /-- A computed value reached rendering. -/
  | unresolvedComputed
  /-- A condition on nothing was compiled. -/
  | missingSubject (condition : String)
  /-- A statement that sets fields has none. -/
  | nothingToSet (mode : Mode)
deriving DecidableEq

/-- The wording of a value problem. -/
def ValueProblem.message : ValueProblem → String
  | .listOperator list operator =>
    "list value " ++ list ++ " is not supported with operator " ++ operator.sql
  | .listRefused operator => "operator " ++ operator.sql ++ " does not accept an array value"
  | .nestedList => "multi-dimensional array as condition value is not supported"
  | .objectValue => "object as condition value is not supported"
  | .unresolvedComputed => "computed value must be resolved before rendering"
  | .missingSubject condition => "condition has no field: " ++ condition
  | .nothingToSet mode => mode.name ++ " statement requires at least one set field"

/-- Why the text of a condition cannot be read. -/
inductive ParseProblem where
  /-- Nothing but blanks. -/
  | emptyCondition
  /-- Several words and no operator between them. -/
  | noOperator
  /-- Nothing before the operator. -/
  | emptyField
  /-- Nothing after the operator. -/
  | missingValue
  /-- A placeholder the context has no value for. -/
  | unresolvedPlaceholder
deriving DecidableEq

/-- The wording of a parse problem. -/
def ParseProblem.message : ParseProblem → String
  | .emptyCondition => "Empty condition"
  | .noOperator => "No operator found"
  | .emptyField => "Empty field name"
  | .missingValue => "Missing value"
  | .unresolvedPlaceholder => "Unresolved placeholder"

/-- What an alias was given to. -/
inductive AliasKind where
  /-- A table or sub-query that is read from. -/
  | table
  /-- A field that is selected. -/
  | field
deriving DecidableEq

/-- The word for what an alias was given to. -/
def AliasKind.name : AliasKind → String
  | .table => "table"
  | .field => "field"

/-- An error of building, reading or rendering. -/
inductive QueryError where
  /-- An expression without a template was rendered. -/
  | noTemplate
  /-- A tag of a template has no argument. -/
  | unknownTag (tag template : String)
  /-- Two tables or two fields would go by one name. -/
  | aliasTaken (kind : AliasKind) (aliasName : String)
  /-- A statement's mode would change. -/
  | modeFixed (current requested : Mode)
  /-- A statement that names its table has none. -/
  | noTable (mode : Mode)
  /-- A text is no operator. -/
  | unknownOperator (text : String)
  /-- A value does not fit. -/
  | unfitValue (problem : ValueProblem)
  /-- A condition without an operator was negated. -/
  | noNegation (condition : String)
  /-- The selection of an entity's rows was negated. -/
  | selectionNegation (entity : String)
  /-- Null was compared by order. -/
  | orderOfNull (subject : String) (operator : Operator)
  /-- A condition text or a part of it cannot be read. -/
  | unreadable (input : String) (problem : ParseProblem)
deriving DecidableEq

/-- The wording of an error. -/
def QueryError.message : QueryError → String
  | .noTemplate => "Template not defined"
  | .unknownTag tag template =>
    "Template could not resolve tag [" ++ tag ++ "] in \"" ++ template ++ "\""
  | .aliasTaken kind aliasName =>
    "Alias must be unique: " ++ kind.name ++ " \"" ++ aliasName ++ "\" is already defined"
  | .modeFixed current requested =>
    "Statement mode is already " ++ current.name ++ ", cannot switch to " ++ requested.name
  | .noTable mode => "Statement in " ++ mode.name ++ " mode requires a table"
  | .unknownOperator text => "Unsupported operator: " ++ text
  | .unfitValue problem => "Invalid value: " ++ problem.message
  | .noNegation condition => "Negation not supported for this operator: " ++ condition
  | .selectionNegation entity => "Root scope of \"" ++ entity ++ "\" cannot be negated"
  | .orderOfNull subject operator =>
    "Unsupported operator for null value: " ++ subject ++ " " ++ operator.sql
  | .unreadable input problem => "Failed to parse '" ++ input ++ "': " ++ problem.message

/-- The operator a text stands for; any other text is an error. -/
def Operator.ofText (text : String) : Except QueryError Operator :=
  match Operator.ofText? text with
  | some operator => .ok operator
  | none => .error (.unknownOperator text)

end ScopeQuery
