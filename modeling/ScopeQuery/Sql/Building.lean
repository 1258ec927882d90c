import ScopeQuery.Sql.Builder

/-!
# Building in place

Building as its caller sees it: every call changes the statement where it stands, and an error
returns the caller to whatever the statement has become by then. A caller may go on after an
error, so a run of calls is any calls one after another.
-/

namespace ScopeQuery

/-- A step that changes a statement in place. An error keeps the changes made before it. -/
abbrev Building := ExceptT QueryError (StateM Statement)

/-- What a step returns, and the statement it leaves behind. -/
def Building.on {α : Type} (step : Building α) (statement : Statement) :
    Except QueryError α × Statement :=
  step.run.run statement

namespace Building

/-- The mode is fixed, unless another one is. -/
def fixMode (mode : Mode) : Building Unit := do
  let statement ← get
  match statement.givenMode with
  | some current => if current = mode then pure () else throw (.modeFixed current mode)
  | none => pure ()
  modify fun statement => { statement with givenMode := some mode }

/-- A source is put behind the others of its kind, once its name is known to be free. -/
def pushSource (kind : AliasKind) (aliasName : Option String) (source : Argument) :
    Building Unit := do
  let statement ← get
  liftExcept (checkFree kind (statement.sources kind) ⟨aliasName, source⟩)
  modify fun statement => statement.withSource ⟨aliasName, source⟩ kind

/-- A step that ends with the changed statement, or with an error and the given one. -/
def Changes (step : Building Unit) (change : Statement → Except QueryError Statement) : Prop :=
  ∀ statement, step.on statement =
    match change statement with
    | .ok changed => (.ok (), changed)
    | .error error => (.error error, statement)

end Building

/-- A call that builds a statement. -/
inductive BuilderCall where
  /-- What the statement does. -/
  | setMode (mode : Mode)
  /-- A keyword after the verb. -/
  | addOption (text : String)
  /-- A table under its own name. -/
  | addTable (name : String)
  /-- A table under an alias. -/
  | addTableAs (name aliasName : String)
  /-- A sub-query or an expression to read from, under an alias. -/
  | addTableSource (source : Argument) (aliasName : String)
  /-- A field under its own name. -/
  | addField (name : String)
  /-- A field under an alias. -/
  | addFieldAs (name aliasName : String)
  /-- An expression to select, perhaps under an alias. -/
  | addFieldSource (source : Argument) (aliasName : Option String)
  /-- A joined table. -/
  | addJoin (join : Join)
  /-- A predicate on rows. -/
  | addWhere (predicate : Predicate)
  /-- A comparison on rows. -/
  | compareWhere (field : Argument) (operator : Option Operator) (value : Argument)
  /-- A fragment that is a predicate on rows. -/
  | fragmentWhere (fragment : Argument)
  /-- Predicates on rows joined into one. -/
  | groupWhere (junction : Junction) (predicates : List Predicate)
  /-- A predicate on groups. -/
  | addHaving (predicate : Predicate)
  /-- A comparison on groups. -/
  | compareHaving (field : Argument) (operator : Option Operator) (value : Argument)
  /-- Something to group by. -/
  | addGroup (field : Argument)
  /-- A sort key. -/
  | addOrder (field : Argument) (direction : SortDirection)
  /-- How many rows are returned, and how many are skipped before them. -/
  | setLimit (count skip : UInt64)
  /-- A field and its value. -/
  | addAssignment (field : String) (value : Argument)

/-- What a call does to the statement where it stands. -/
def BuilderCall.step : BuilderCall → Building Unit
  | .setMode mode => Building.fixMode mode
  | .addOption text => modify fun s => s.addOption text
  | .addTable name => Building.pushSource .table none (.text name)
  | .addTableAs name aliasName => Building.pushSource .table (some aliasName) (.text name)
  | .addTableSource source aliasName => Building.pushSource .table (some aliasName) source
  | .addField name => Building.pushSource .field none (.text name)
  | .addFieldAs name aliasName => Building.pushSource .field (some aliasName) (.text name)
  | .addFieldSource source aliasName => Building.pushSource .field aliasName source
  | .addJoin join => modify fun s => s.addJoin join
  | .addWhere predicate => modify fun s => s.addWhere predicate
  | .compareWhere field operator value =>
    modify fun s => s.addWhere (.comparison field operator value)
  | .fragmentWhere fragment => modify fun s => s.addWhere (.fragment fragment)
  | .groupWhere junction predicates => modify fun s => s.addWhere (.group junction predicates)
  | .addHaving predicate => modify fun s => s.addHaving predicate
  | .compareHaving field operator value =>
    modify fun s => s.addHaving (.comparison field operator value)
  | .addGroup field => modify fun s => s.addGroup field
  | .addOrder field direction => modify fun s => s.addOrder field direction
  | .setLimit count skip => modify fun s => s.setLimit count skip
  | .addAssignment field value => modify fun s => s.addAssignment field value

/-- The statement that calls leave behind, made one after another whether or not those before
them fail. -/
def Statement.afterCalls (statement : Statement) (calls : List BuilderCall) : Statement :=
  calls.foldl (fun s call => (call.step.on s).2) statement

namespace Building

/-- Fixing the mode where the statement stands is the statement with the mode fixed. -/
theorem changes_fixMode (mode : Mode) : (fixMode mode).Changes (·.setMode mode) := by
  rintro ⟨dialect, givenMode⟩
  cases givenMode with
  | none => rfl
  | some current => cases current <;> cases mode <;> rfl

/-- Pushing a source where the statement stands is the statement with the source. -/
theorem changes_pushSource (kind : AliasKind) (aliasName : Option String) (source : Argument) :
    (pushSource kind aliasName source).Changes (·.addSource kind aliasName source) := by
  intro statement
  change ((liftExcept (checkFree kind (statement.sources kind) ⟨aliasName, source⟩) :
      Building Unit) >>= fun _ =>
    modify fun s => s.withSource ⟨aliasName, source⟩ kind).on statement = _
  dsimp only
  rw [Statement.addSource]
  cases checkFree kind (statement.sources kind) ⟨aliasName, source⟩ <;> rfl

end Building

end ScopeQuery
