import ScopeQuery.Compile.Condition
import ScopeQuery.Sql.Render

/-!
# Compiling scopes

The predicates a scope becomes and the statements that have them. A condition on
a path imposes the rest of the path on the rows of the first hop and becomes the
sub-query that asks for such a row; the compilation ends because the rest of a path
leads less far, and so does what the rows of a hop have to satisfy. It notes the calls of
computed comparands that it makes. Filling a statement adds all predicates of a selection
or, when one of them fails, none.
-/

namespace ScopeQuery

/-- Predicates joined with a junction, if there are any. -/
def groupPredicate (junction : Junction) (predicates : List Predicate) : Option Predicate :=
  if predicates.isEmpty then none else some (.group junction predicates)

namespace Compiler

variable {R : Type} [Relationships R]

mutual

/-- The predicate of a condition, if it imposes anything. -/
def notedPredicate (compiler : Compiler R) (entity : Entity) (condition : Condition) :
    Noted CompileError (Option Predicate) :=
  match _found : condition.resolution with
  | ⟨calls, .error error⟩ => ⟨calls, .error (.query error)⟩
  | ⟨calls, .ok none⟩ => ⟨calls, .ok none⟩
  | ⟨calls, .ok (some resolved)⟩ =>
    let noted := compiler.notedResolved entity resolved
    ⟨calls ++ noted.calls, noted.result.map some⟩
termination_by (condition.reach (compiler.rank entity), 2, 0)
decreasing_by
  have hresolved : condition.resolved = .ok (some resolved) := by rw [Condition.resolved, _found]
  have := Condition.reach_of_resolved hresolved (compiler.rank entity)
  simp only [Prod.lex_def]
  omega

/-- The predicate of a condition whose comparand is resolved. -/
def notedResolved (compiler : Compiler R) (entity : Entity) (condition : Condition) :
    Noted CompileError Predicate :=
  match _subject : condition.subject with
  | none => .of (.error (.query (.unfitValue (.missingSubject condition.describe))))
  | some (.expression e) => .of (expressionPredicate e condition)
  | some (.path path) =>
    match _split : splitHop? path with
    | none => .of (compiler.fieldPredicate entity path condition)
    | some (hop, rest) => compiler.notedHop entity condition hop rest
termination_by (condition.reach (compiler.rank entity), 1, 0)
decreasing_by
  have := compiler.onward_le entity _split
  simp only [Condition.reach, _subject, Prod.lex_def]
  omega

/-- The predicate of a condition over a hop. The rest of the path is imposed on
the related rows, unless it counts them. -/
def notedHop (compiler : Compiler R) (entity : Entity) (condition : Condition)
    (hop rest : String) : Noted CompileError Predicate :=
  match _followed : compiler.follow entity hop with
  | .error error => .of (.error error)
  | .ok related =>
    if rest = countSegment then compiler.notedCount related condition
    else
      (compiler.notedExists
        (related.add (.condition (condition.withSubject (.path rest))))).map Expression.predicate
termination_by (compiler.onward entity hop rest, 0, 0)
decreasing_by
  · have := (reach_lt_onward _followed rest).1
    simp only [Prod.lex_def]
    omega
  · have := (reach_lt_onward _followed rest).2 condition
    simp only [Prod.lex_def]
    omega

/-- The predicate of a condition on the count of related rows. Without an operator
there has to be a row. -/
def notedCount (compiler : Compiler R) (related : RelatedRows) (condition : Condition) :
    Noted CompileError Predicate :=
  match condition.test with
  | none => (compiler.notedExists related).map Expression.predicate
  | some (operator, comparand) =>
    match presenceAsked? operator comparand with
    | some true => (compiler.notedExists related).map Expression.predicate
    | some false => (compiler.notedExists related).map fun e =>
        (Expression.ofTemplate "not []" [.expression e]).predicate
    | none =>
      match plainArgument comparand with
      | .error error => .of (.error error)
      | .ok value => (compiler.notedCounting related).map fun e =>
          comparisonPredicate (.expression e) (some operator) value
termination_by (compiler.reach related, 6, 0)
decreasing_by all_goals simp [Prod.lex_def]

/-- The fragment that holds when a related row satisfies its selection. -/
def notedExists (compiler : Compiler R) (related : RelatedRows) :
    Noted CompileError Expression :=
  (compiler.notedScope related.entity related.selection.scope).map related.existsWith
termination_by (compiler.reach related, 5, 0)
decreasing_by simp [reach, Selection.scope, Prod.lex_def]

/-- The fragment that counts the related rows that satisfy their selection. -/
def notedCounting (compiler : Compiler R) (related : RelatedRows) :
    Noted CompileError Expression :=
  (compiler.notedScope related.entity related.selection.scope).map related.countWith
termination_by (compiler.reach related, 5, 0)
decreasing_by simp [reach, Selection.scope, Prod.lex_def]

/-- The predicates of a scope. The children of an outermost "and" become predicates
of their own, any other scope becomes one predicate. -/
def notedScope (compiler : Compiler R) (entity : Entity) (scope : Scope) :
    Noted CompileError (List Predicate) :=
  match _simple : scope.simplify with
  | .scope .and children => compiler.notedTrees entity children
  | tree => (compiler.notedTree entity tree).map Option.toList
termination_by (ScopeTree.farthest (compiler.rank entity) scope.children, 4, 0)
decreasing_by
  all_goals
    have hreach := ScopeTree.reach_simplify (compiler.rank entity) scope.tree
    rw [← Scope.simplify, _simple] at hreach
    simp only [Scope.tree, ScopeTree.reach] at hreach
    simp [hreach, Prod.lex_def]

/-- The predicate of a tree, if it imposes anything. -/
def notedTree (compiler : Compiler R) (entity : Entity) (tree : ScopeTree) :
    Noted CompileError (Option Predicate) :=
  match _simple : tree.simplify with
  | .condition condition => compiler.notedPredicate entity condition
  | .scope junction children => (compiler.notedTrees entity children).map (groupPredicate junction)
termination_by (tree.reach (compiler.rank entity), 3, sizeOf tree)
decreasing_by
  · have hreach := ScopeTree.reach_simplify (compiler.rank entity) tree
    rw [_simple, ScopeTree.reach] at hreach
    simp [hreach, Prod.lex_def]
  · have hreach := ScopeTree.reach_simplify (compiler.rank entity) tree
    have hsize := ScopeTree.sizeOf_simplify_le tree
    rw [_simple] at hreach hsize
    simp only [ScopeTree.reach, ScopeTree.scope.sizeOf_spec] at hreach hsize
    simp only [hreach, Prod.lex_def, true_and]
    omega

/-- The predicates of the trees that impose anything, in order. -/
def notedTrees (compiler : Compiler R) (entity : Entity) (trees : List ScopeTree) :
    Noted CompileError (List Predicate) :=
  match trees with
  | [] => .of (.ok [])
  | tree :: rest =>
    (compiler.notedTree entity tree).bind fun predicate =>
      (compiler.notedTrees entity rest).map (predicate.toList ++ ·)
termination_by (ScopeTree.farthest (compiler.rank entity) trees, 3, sizeOf trees)
decreasing_by
  all_goals
    simp only [ScopeTree.farthest, List.cons.sizeOf_spec, Prod.lex_def, true_and]
    omega

end

section Results

variable (compiler : Compiler R) (entity : Entity)

/-- The predicate of a condition, if it imposes anything. -/
def conditionPredicate (condition : Condition) : Except CompileError (Option Predicate) :=
  (compiler.notedPredicate entity condition).result

/-- The predicate of a condition whose comparand is resolved. -/
def resolvedPredicate (condition : Condition) : Except CompileError Predicate :=
  (compiler.notedResolved entity condition).result

/-- The predicate of a condition over a hop. -/
def hopPredicate (condition : Condition) (hop rest : String) : Except CompileError Predicate :=
  (compiler.notedHop entity condition hop rest).result

/-- The predicate of a condition on the count of related rows. -/
def countPredicate (related : RelatedRows) (condition : Condition) :
    Except CompileError Predicate :=
  (compiler.notedCount related condition).result

/-- The fragment that holds when a related row satisfies its selection. -/
def existsFragment (related : RelatedRows) : Except CompileError Expression :=
  (compiler.notedExists related).result

/-- The fragment that counts the related rows that satisfy their selection. -/
def countFragment (related : RelatedRows) : Except CompileError Expression :=
  (compiler.notedCounting related).result

/-- The predicates of a scope. -/
def scopePredicates (scope : Scope) : Except CompileError (List Predicate) :=
  (compiler.notedScope entity scope).result

/-- The predicate of a tree, if it imposes anything. -/
def treePredicate (tree : ScopeTree) : Except CompileError (Option Predicate) :=
  (compiler.notedTree entity tree).result

/-- The predicates of the trees that impose anything, in order. -/
def treePredicates (trees : List ScopeTree) : Except CompileError (List Predicate) :=
  (compiler.notedTrees entity trees).result

end Results

/-- An error with the statement that was being filled. -/
def inStatement (statement : Statement) (error : CompileError) : CompileError :=
  match statement.inspect with
  | .ok text => .inStatement text error
  | .error _ => .inStatement ("<" ++ statement.mode.name ++ " statement>") error

/-- The predicates of a selection, for a statement that is to be filled. -/
def selectionPredicates (compiler : Compiler R) (statement : Statement) (selection : Selection) :
    Except CompileError (List Predicate) :=
  match compiler.scopePredicates (.root selection.entity) selection.scope with
  | .ok predicates => .ok predicates
  | .error error => .error (inStatement statement error)

/-- The statement with the selection among its predicates on rows. -/
def fillWhere (compiler : Compiler R) (statement : Statement) (selection : Selection) :
    Except CompileError Statement :=
  (compiler.selectionPredicates statement selection).map statement.addWheres

/-- The statement with the selection among its predicates on groups. -/
def fillHaving (compiler : Compiler R) (statement : Statement) (selection : Selection) :
    Except CompileError Statement :=
  (compiler.selectionPredicates statement selection).map statement.addHavings

/-- The statement that reads the selected rows. -/
def select (compiler : Compiler R) (selection : Selection) : Except CompileError Statement :=
  match (Statement.empty compiler.dialect).addSource .table none (.text selection.entity) with
  | .ok statement => compiler.fillWhere statement selection
  | .error error => .error (.query error)

/-- The query that reads the selected rows. -/
def compile (compiler : Compiler R) (selection : Selection) : Except CompileError RenderedQuery :=
  match compiler.select selection with
  | .error error => .error error
  | .ok statement =>
    match statement.render with
    | .ok query => .ok query
    | .error error => .error (.query error)

end Compiler

end ScopeQuery
