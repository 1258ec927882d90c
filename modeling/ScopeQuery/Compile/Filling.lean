import ScopeQuery.Compile.Scope

/-!
# Filling in place

Filling as its caller sees it: the statement is changed where it stands, one predicate at a
time, and an error returns the caller to whatever the statement has become by then. What a
caller finds there is the filled statement, or the one that was given.
-/

namespace ScopeQuery

/-- A step that changes a statement in place. An error keeps the changes made before it. -/
abbrev InPlace := ExceptT CompileError (StateM Statement)

namespace InPlace

/-- What a step returns, and the statement it leaves behind. -/
def on {α : Type} (step : InPlace α) (statement : Statement) : Except CompileError α × Statement :=
  step.run.run statement

/-- Predicates added one after another, from left to right. -/
def addEach (add : Statement → Predicate → Statement) (predicates : List Predicate) :
    InPlace Unit :=
  predicates.forM fun predicate => modify fun statement => add statement predicate

/-- One predicate after another is added, and none is refused. -/
theorem addEach_on (add : Statement → Predicate → Statement) (predicates : List Predicate)
    (statement : Statement) :
    (addEach add predicates).on statement = (.ok (), predicates.foldl add statement) := by
  induction predicates generalizing statement with
  | nil => rfl
  | cons predicate rest ih => exact ih (add statement predicate)

end InPlace

namespace Statement

/-- Predicates on rows added one after another are added together. -/
theorem foldl_addWhere (predicates : List Predicate) (statement : Statement) :
    predicates.foldl addWhere statement = statement.addWheres predicates := by
  induction predicates generalizing statement with
  | nil =>
    cases statement
    simp [addWheres]
  | cons predicate rest ih => simp [ih, addWhere, addWheres]

/-- Predicates on groups added one after another are added together. -/
theorem foldl_addHaving (predicates : List Predicate) (statement : Statement) :
    predicates.foldl addHaving statement = statement.addHavings predicates := by
  induction predicates generalizing statement with
  | nil =>
    cases statement
    simp [addHavings]
  | cons predicate rest ih => simp [ih, addHaving, addHavings]

end Statement

namespace Compiler

variable {R : Type} [Relationships R]

/-- The predicates of a selection are all made before the first of them is added. -/
def fillInPlace (compiler : Compiler R) (add : Statement → Predicate → Statement)
    (selection : Selection) : InPlace Unit := do
  let statement ← get
  let predicates ← liftExcept (compiler.selectionPredicates statement selection)
  InPlace.addEach add predicates

/-- The selection put among the predicates on rows. -/
def fillWhereInPlace (compiler : Compiler R) (selection : Selection) : InPlace Unit :=
  compiler.fillInPlace Statement.addWhere selection

/-- The selection put among the predicates on groups. -/
def fillHavingInPlace (compiler : Compiler R) (selection : Selection) : InPlace Unit :=
  compiler.fillInPlace Statement.addHaving selection

variable (compiler : Compiler R) (selection : Selection) (statement : Statement)

/-- Filling in place ends with all predicates added, or with an error and nothing added. -/
theorem fillInPlace_on (add : Statement → Predicate → Statement) :
    (compiler.fillInPlace add selection).on statement =
      match compiler.selectionPredicates statement selection with
      | .ok predicates => (.ok (), predicates.foldl add statement)
      | .error error => (.error error, statement) := by
  change (liftExcept (compiler.selectionPredicates statement selection) >>=
    InPlace.addEach add : InPlace Unit).on statement = _
  cases compiler.selectionPredicates statement selection with
  | ok predicates => exact InPlace.addEach_on add predicates statement
  | error error => rfl

/-- The caller finds the filled statement, or the given one beside the error. -/
theorem fillWhereInPlace_on :
    (compiler.fillWhereInPlace selection).on statement =
      match compiler.fillWhere statement selection with
      | .ok filled => (.ok (), filled)
      | .error error => (.error error, statement) := by
  rw [fillWhereInPlace, fillInPlace_on, fillWhere]
  cases compiler.selectionPredicates statement selection with
  | ok predicates => exact congrArg _ (statement.foldl_addWhere predicates)
  | error error => rfl

/-- The caller finds the filled statement, or the given one beside the error. -/
theorem fillHavingInPlace_on :
    (compiler.fillHavingInPlace selection).on statement =
      match compiler.fillHaving statement selection with
      | .ok filled => (.ok (), filled)
      | .error error => (.error error, statement) := by
  rw [fillHavingInPlace, fillInPlace_on, fillHaving]
  cases compiler.selectionPredicates statement selection with
  | ok predicates => exact congrArg _ (statement.foldl_addHaving predicates)
  | error error => rfl

end Compiler

end ScopeQuery
