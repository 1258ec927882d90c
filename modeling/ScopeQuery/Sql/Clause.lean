import ScopeQuery.Sql.Predicate

/-!
# Clauses

A statement's template refers to its clauses by tag. Each clause becomes one
expression: the templates of its items with a separator between them, and the
operands of all items in the same order.
-/

namespace ScopeQuery

/-- A part of a statement that its template can refer to. -/
inductive Clause where
  /-- Keywords after the verb. -/
  | options
  /-- The selected fields. -/
  | fields
  /-- The tables with their aliases. -/
  | tables
  /-- The first table without its alias. -/
  | tableNoAlias
  /-- The joined tables. -/
  | joins
  /-- The predicates on rows. -/
  | wheres
  /-- The grouping. -/
  | groups
  /-- The predicates on groups. -/
  | havings
  /-- The sorting. -/
  | order
  /-- The number of rows. -/
  | limit
  /-- Fields with their values. -/
  | assignments
  /-- The set fields alone. -/
  | setFields
  /-- The set values alone. -/
  | setValues
deriving DecidableEq

/-- The clause a tag refers to. -/
def Clause.ofTag? (tag : String) : Option Clause :=
  match tag with
  | "option" => some .options
  | "field" => some .fields
  | "from" => some .tables
  | "table_noalias" => some .tableNoAlias
  | "join" => some .joins
  | "where" => some .wheres
  | "group" => some .groups
  | "having" => some .havings
  | "order" => some .order
  | "limit" => some .limit
  | "set" => some .assignments
  | "set_fields" => some .setFields
  | "set_values" => some .setValues
  | _ => none

/-- One item of a clause: its own template and the operands of its tags. -/
structure ClauseItem where
  /-- The template of the item. -/
  template : String
  /-- The operands, one for each tag. -/
  operands : List Argument

namespace ClauseItem

/-- An item that is one soft identifier. -/
def soft (argument : Argument) : ClauseItem := ⟨"\x7b\x7b\x7d\x7d", [argument]⟩

/-- The name of a table or field that is a plain name. -/
def sourceName? : Argument → Option String
  | .literal (.string name) => some name
  | _ => none

/-- A table or field; its alias follows unless it is the plain name itself. -/
def ofSource (separator : String) (source : Source) : ClauseItem :=
  match source.aliasName with
  | some aliasName =>
    if sourceName? source.source = some aliasName then soft source.source
    else ⟨"\x7b\x7b\x7d\x7d" ++ separator ++ "\x7b\x7d", [source.source, .text aliasName]⟩
  | none => soft source.source

/-- The template and operands of what follows `on`. -/
def ofJoinCondition : JoinCondition → ClauseItem
  | .columns left right =>
    ⟨" on \x7b\x7b\x7d\x7d = \x7b\x7b\x7d\x7d", [.text left, .text right]⟩
  | .expression e => ⟨" on []", [.expression e]⟩

/-- A joined table with its condition. -/
def ofJoin (join : Join) : ClauseItem :=
  let head : ClauseItem :=
    ⟨" " ++ join.kind.sql ++ " join \x7b\x7b\x7d\x7d", [.text join.table]⟩
  let aliased : ClauseItem := match join.aliasName with
    | some aliasName => ⟨" \x7b\x7d", [.text aliasName]⟩
    | none => ⟨"", []⟩
  let condition := ofJoinCondition join.condition
  ⟨head.template ++ aliased.template ++ condition.template,
    head.operands ++ aliased.operands ++ condition.operands⟩

/-- A predicate. -/
def ofPredicate (part : Expression) : ClauseItem := ⟨"[]", [.expression part]⟩

/-- A sort key. -/
def ofOrder (item : OrderItem) : ClauseItem :=
  match item.direction with
  | .ascending => soft item.field
  | .descending => ⟨"\x7b\x7b\x7d\x7d desc", [item.field]⟩

/-- A field with its value. -/
def ofAssignment (assignment : Assignment) : ClauseItem :=
  ⟨"\x7b\x7b\x7d\x7d = []", [.text assignment.field, assignment.value]⟩

/-- A set field. -/
def ofSetField (assignment : Assignment) : ClauseItem := soft (.text assignment.field)

/-- A set value. -/
def ofSetValue (assignment : Assignment) : ClauseItem := ⟨"[]", [assignment.value]⟩

end ClauseItem

/-- A text, then the items with a separator between neighbours. -/
def listClause (lead separator : String) (items : List ClauseItem) : Expression :=
  .ofTemplate (lead ++ Text.joined separator (items.map (·.template)))
    (items.flatMap (·.operands))

/-- A clause that contributes nothing. -/
def emptyClause : Expression := .ofTemplate ""

/-- A list clause that contributes nothing when it has no items. -/
def optionalClause (lead separator : String) (items : List ClauseItem) : Expression :=
  if items.isEmpty then emptyClause else listClause lead separator items

/-- The row limit of each dialect, with the count and the skipped rows as named
arguments. -/
def limitTemplate : Dialect → String
  | .mysql => " limit [skip], [count]"
  | .mssql => " offset [skip] rows fetch next [count] rows only"
  | .oracle => " offset [skip] rows fetch next [count] rows only"
  | _ => " limit [count] offset [skip]"

/-- The row limit as an expression. -/
def limitClause (dialect : Dialect) (limit : RowLimit) : Expression :=
  { template := some (limitTemplate dialect)
    named :=
      [⟨"count", .literal (.number (Number.ofNat limit.count.toNat))⟩,
        ⟨"skip", .literal (.number (Number.ofNat limit.skip.toNat))⟩] }

namespace Statement

/-- The sorting. One dialect limits rows only after a sorting, so it sorts by
nothing when there is a limit and no key. -/
def orderClause (statement : Statement) (dialect : Dialect) : Expression :=
  if statement.order.isEmpty ∧ dialect = .mssql ∧ statement.limit.isSome then
    .ofTemplate " order by (select null)"
  else optionalClause " order by " ", " (statement.order.map .ofOrder)

/-- The predicates of a clause, all of which have to hold. -/
def predicateClause (lead : String) (predicates : List Predicate) (dialect : Dialect) :
    Except QueryError Expression :=
  match predicateExpressions dialect predicates with
  | .ok parts => .ok (optionalClause lead " and " (parts.map .ofPredicate))
  | .error error => .error error

/-- The items of a clause that needs at least one set field. -/
def assignmentClause (statement : Statement) (item : Assignment → ClauseItem) :
    Except QueryError Expression :=
  if statement.assignments.isEmpty then
    .error (.unfitValue (.nothingToSet statement.mode))
  else .ok (listClause "" ", " (statement.assignments.map item))

/-- A clause of a statement as an expression. -/
def clause (statement : Statement) (dialect : Dialect) : Clause → Except QueryError Expression
  | .options =>
    .ok (if statement.options.isEmpty then emptyClause
      else .ofTemplate (" " ++ Text.joined " " statement.options))
  | .fields =>
    .ok (if statement.fields.isEmpty then .ofTemplate "*"
      else listClause "" ", " (statement.fields.map (.ofSource " as ")))
  | .tables => .ok (optionalClause " from " ", " (statement.tables.map (.ofSource " ")))
  | .tableNoAlias =>
    match statement.tables with
    | [] => .error (.noTable statement.mode)
    | table :: _ => .ok (listClause "" "" [.soft table.source])
  | .joins => .ok (optionalClause "" "" (statement.joins.map .ofJoin))
  | .wheres => predicateClause " where " statement.wheres dialect
  | .groups => .ok (optionalClause " group by " ", " (statement.groups.map .soft))
  | .havings => predicateClause " having " statement.havings dialect
  | .order => .ok (statement.orderClause dialect)
  | .limit =>
    .ok (match statement.limit with
      | none => emptyClause
      | some limit => limitClause dialect limit)
  | .assignments => statement.assignmentClause .ofAssignment
  | .setFields => statement.assignmentClause .ofSetField
  | .setValues => statement.assignmentClause .ofSetValue

end Statement

end ScopeQuery
