import ScopeQuery.Vocabulary.Dialect
import ScopeQuery.Vocabulary.Junction
import ScopeQuery.Vocabulary.Mode
import ScopeQuery.Vocabulary.Operator
import ScopeQuery.Template.Basic
import ScopeQuery.Value.Text

/-!
# Arguments, expressions and statements

The tree that SQL is rendered from. An expression is a template with arguments;
an argument is a value, an expression, a statement that becomes a sub-query, or
a list of arguments; a statement keeps what each of its clauses holds until it
is rendered. The depth of a node bounds how far these nest.
-/

namespace ScopeQuery

/-- The order of a sort key. -/
inductive SortDirection where
  /-- Smallest first. -/
  | ascending
  /-- Largest first. -/
  | descending
deriving DecidableEq

/-- Which rows without a partner a join keeps. -/
inductive JoinKind where
  /-- None. -/
  | inner
  /-- Those of the left table. -/
  | left
  /-- Those of the right table. -/
  | right
deriving DecidableEq

/-- The keyword of a join. -/
def JoinKind.sql : JoinKind → String
  | .inner => "inner"
  | .left => "left"
  | .right => "right"

/-- How many rows are returned, and how many are skipped before them. -/
structure RowLimit where
  /-- The largest number of rows. -/
  count : UInt64
  /-- The number of rows left out at the front. -/
  skip : UInt64
deriving DecidableEq

mutual

/-- What stands in the place of a tag. -/
inductive Argument where
  /-- A value, written as the tag asks. -/
  | literal (value : Value)
  /-- An expression, rendered in place. -/
  | expression (e : Expression)
  /-- A statement, rendered as a sub-query in parentheses. -/
  | statement (s : Statement)
  /-- Arguments in parentheses, with commas between them. -/
  | list (items : List Argument)

/-- An argument under a name. -/
structure NamedArgument where
  /-- The name that tags refer to. -/
  name : String
  /-- The argument. -/
  argument : Argument

/-- A template with its arguments. -/
structure Expression where
  /-- The template; an expression without one cannot be rendered. -/
  template : Option String
  /-- The arguments of tags without a name, in order. -/
  operands : List Argument := []
  /-- The arguments of tags with a name. -/
  named : List NamedArgument := []
  /-- Whether the expression stands in parentheses inside another one. -/
  wrapped : Bool := false

/-- A table or field of a statement. -/
structure Source where
  /-- The name it goes by in the statement. -/
  aliasName : Option String
  /-- What it is. -/
  source : Argument

/-- When rows of two tables belong together. -/
inductive JoinCondition where
  /-- When two columns are equal. -/
  | columns (left right : String)
  /-- When a condition holds. -/
  | expression (e : Expression)

/-- A joined table. -/
structure Join where
  /-- The kind of the join. -/
  kind : JoinKind
  /-- The name of the table. -/
  table : String
  /-- The name it goes by in the statement. -/
  aliasName : Option String
  /-- When rows belong together. -/
  condition : JoinCondition

/-- A predicate of a where or having clause. -/
inductive Predicate where
  /-- A comparison; without an operator the value decides between equality,
  membership and a null test. -/
  | comparison (field : Argument) (operator : Option Operator) (value : Argument)
  /-- A fragment that is a predicate by itself. -/
  | fragment (fragment : Argument)
  /-- Predicates joined into one. -/
  | group (junction : Junction) (predicates : List Predicate)

/-- A sort key. -/
structure OrderItem where
  /-- What is sorted by. -/
  field : Argument
  /-- The order. -/
  direction : SortDirection

/-- A field and the value it is set to. -/
structure Assignment where
  /-- The name of the field. -/
  field : String
  /-- The value. -/
  value : Argument

/-- A statement, clause by clause. -/
structure Statement where
  /-- The dialect the statement is rendered in when it stands alone. -/
  dialect : Dialect
  /-- What the statement does; reading rows unless set. -/
  givenMode : Option Mode := none
  /-- Keywords after the verb. -/
  options : List String := []
  /-- The selected fields. -/
  fields : List Source := []
  /-- The tables read from. -/
  tables : List Source := []
  /-- The joined tables. -/
  joins : List Join := []
  /-- The predicates rows have to satisfy. -/
  wheres : List Predicate := []
  /-- What rows are grouped by. -/
  groups : List Argument := []
  /-- The predicates groups have to satisfy. -/
  havings : List Predicate := []
  /-- What rows are sorted by. -/
  order : List OrderItem := []
  /-- How many rows are returned. -/
  limit : Option RowLimit := none
  /-- The fields that are set. -/
  assignments : List Assignment := []

end

/-- The mode, reading rows when none is set. -/
def Statement.mode (statement : Statement) : Mode := statement.givenMode.getD .select

namespace Argument

/-- A text as an argument. -/
def text (s : String) : Argument := .literal (.string s)

/-- Whether the argument is a list without items. -/
def isEmptyList : Argument → Bool
  | .literal (.array items) => items.isEmpty
  | .list items => items.isEmpty
  | _ => false

/-- Whether the argument is a list. -/
def isList : Argument → Bool
  | .literal (.array _) => true
  | .list _ => true
  | _ => false

/-- Whether the argument is the null value. -/
def isNull : Argument → Bool
  | .literal .null => true
  | _ => false

mutual

/-- The argument as error messages show it. -/
def describe : Argument → String
  | .literal value => value.text
  | .expression e => e.template.getD "<no template>"
  | .statement _ => "<sub-query>"
  | .list items => "(" ++ Text.joined ", " (describeAll items) ++ ")"

/-- Several arguments as error messages show them. -/
def describeAll : List Argument → List String
  | [] => []
  | argument :: rest => describe argument :: describeAll rest

end

end Argument

namespace Expression

/-- An expression with positional arguments. -/
def ofTemplate (template : String) (operands : List Argument := []) : Expression :=
  { template := some template, operands }

/-- The argument of a tag, if the expression has one. -/
def argument? (e : Expression) : TagTarget → Option Argument
  | .position i => e.operands[i]?
  | .name name => (e.named.find? fun entry => entry.name == name).map (·.argument)

end Expression

mutual

/-- How far expressions, statements and lists nest in an argument. -/
def Argument.depth : Argument → Nat
  | .literal _ => 0
  | .expression e => e.depth + 1
  | .statement s => s.depth + 1
  | .list items => argumentsDepth items + 1

/-- The largest depth of several arguments. -/
def argumentsDepth : List Argument → Nat
  | [] => 0
  | argument :: rest => max argument.depth (argumentsDepth rest)

/-- The largest depth of several named arguments. -/
def namedDepth : List NamedArgument → Nat
  | [] => 0
  | ⟨_, argument⟩ :: rest => max argument.depth (namedDepth rest)

/-- The largest depth of an expression's arguments. -/
def Expression.depth : Expression → Nat
  | ⟨_, operands, named, _⟩ => max (argumentsDepth operands) (namedDepth named)

/-- The largest depth of several tables or fields. -/
def sourcesDepth : List Source → Nat
  | [] => 0
  | ⟨_, argument⟩ :: rest => max argument.depth (sourcesDepth rest)

/-- The largest depth of the conditions of several joins. -/
def joinsDepth : List Join → Nat
  | [] => 0
  | ⟨_, _, _, .columns _ _⟩ :: rest => joinsDepth rest
  | ⟨_, _, _, .expression e⟩ :: rest => max (e.depth + 1) (joinsDepth rest)

/-- The depth of the expression a predicate becomes. -/
def Predicate.depth : Predicate → Nat
  | .comparison field _ value => max (max field.depth value.depth) 1
  | .fragment fragment => fragment.depth
  | .group _ predicates => predicatesDepth predicates + 1

/-- The largest depth of several predicates. -/
def predicatesDepth : List Predicate → Nat
  | [] => 0
  | predicate :: rest => max predicate.depth (predicatesDepth rest)

/-- The largest depth of several sort keys. -/
def orderDepth : List OrderItem → Nat
  | [] => 0
  | ⟨argument, _⟩ :: rest => max argument.depth (orderDepth rest)

/-- The largest depth of several assigned values. -/
def assignmentsDepth : List Assignment → Nat
  | [] => 0
  | ⟨_, argument⟩ :: rest => max argument.depth (assignmentsDepth rest)

/-- The largest depth of the clauses of a statement, as expressions. -/
def Statement.depth : Statement → Nat
  | ⟨_, _, _, fields, tables, joins, wheres, groups, havings, order, _, assignments⟩ =>
    max
      (max (max (sourcesDepth fields) (sourcesDepth tables))
        (max (joinsDepth joins) (argumentsDepth groups)))
      (max (max (predicatesDepth wheres) (predicatesDepth havings) + 1)
        (max (orderDepth order) (assignmentsDepth assignments)))

end

end ScopeQuery
