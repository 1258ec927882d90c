import ScopeQuery.Error.Query
import ScopeQuery.Sql.Clause

/-!
# Building statements

The operations that give a statement its clauses. Each returns the changed
statement or an error, so a failing one leaves the statement that was given as
it is. The mode is fixed once set, and two tables or two fields never go by one
name.
-/

namespace ScopeQuery

/-- The name a table or field goes by: its alias, or else its plain name. -/
def Source.key? (source : Source) : Option String :=
  match source.aliasName with
  | some aliasName => some aliasName
  | none => ClauseItem.sourceName? source.source

/-- Refuses a source whose name one of the others has already. -/
def checkFree (kind : AliasKind) (sources : List Source) (source : Source) :
    Except QueryError Unit :=
  match source.key? with
  | none => .ok ()
  | some key =>
    if sources.any fun other => other.key? == some key then .error (.aliasTaken kind key)
    else .ok ()

namespace Statement

/-- A statement of a dialect with every clause empty. -/
def empty (dialect : Dialect) : Statement := { dialect }

/-- The mode fixed. Another mode than one already fixed is an error. -/
def setMode (s : Statement) (mode : Mode) : Except QueryError Statement :=
  match s.givenMode with
  | some current =>
    if current = mode then .ok s
    else .error (.modeFixed current mode)
  | none => .ok { s with givenMode := some mode }

/-- A keyword after the verb. -/
def addOption (s : Statement) (text : String) : Statement :=
  { s with options := s.options ++ [text] }

/-- The sources of one kind. -/
def sources (s : Statement) : AliasKind → List Source
  | .table => s.tables
  | .field => s.fields

/-- One more source of its kind, behind the others. -/
def withSource (s : Statement) (source : Source) : AliasKind → Statement
  | .table => { s with tables := s.tables ++ [source] }
  | .field => { s with fields := s.fields ++ [source] }

/-- One more source of its kind, unless its name is taken. -/
def addSource (s : Statement) (kind : AliasKind) (aliasName : Option String)
    (source : Argument) : Except QueryError Statement :=
  (checkFree kind (s.sources kind) ⟨aliasName, source⟩).map fun _ =>
    s.withSource ⟨aliasName, source⟩ kind

/-- A joined table. -/
def addJoin (s : Statement) (join : Join) : Statement := { s with joins := s.joins ++ [join] }

/-- A predicate on rows. -/
def addWhere (s : Statement) (predicate : Predicate) : Statement :=
  { s with wheres := s.wheres ++ [predicate] }

/-- Several predicates on rows. -/
def addWheres (s : Statement) (predicates : List Predicate) : Statement :=
  { s with wheres := s.wheres ++ predicates }

/-- A predicate on groups. -/
def addHaving (s : Statement) (predicate : Predicate) : Statement :=
  { s with havings := s.havings ++ [predicate] }

/-- Several predicates on groups. -/
def addHavings (s : Statement) (predicates : List Predicate) : Statement :=
  { s with havings := s.havings ++ predicates }

/-- Something to group by. -/
def addGroup (s : Statement) (field : Argument) : Statement :=
  { s with groups := s.groups ++ [field] }

/-- A sort key. -/
def addOrder (s : Statement) (field : Argument) (direction : SortDirection) : Statement :=
  { s with order := s.order ++ [⟨field, direction⟩] }

/-- At most `count` rows after leaving out `skip`. -/
def setLimit (s : Statement) (count skip : UInt64) : Statement :=
  { s with limit := some ⟨count, skip⟩ }

/-- A field and its value. -/
def addAssignment (s : Statement) (field : String) (value : Argument) : Statement :=
  { s with assignments := s.assignments ++ [⟨field, value⟩] }

end Statement

end ScopeQuery
