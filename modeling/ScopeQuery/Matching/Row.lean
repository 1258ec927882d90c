import ScopeQuery.Storage.Codec
import ScopeQuery.Matching.Relation
import ScopeQuery.Scope.Basic

/-!
# Matching rows

A matcher decides whether a row satisfies a scope, without a database. Conditions
go through the same codecs as in a compiled statement: the row is read under the
storage key and compared with the encoded value. Trees that impose nothing are
left out, and the first child that settles a scope ends its evaluation.
-/

namespace ScopeQuery

/-- What a matcher needs to know. -/
structure Matcher where
  /-- How patterns are matched. -/
  settings : MatchSettings
  /-- The codecs of fields. -/
  codecs : Codecs

/-- The truth of a value that stands alone. -/
def truthOf (value : Value) (condition : Condition) : Except MatchError Bool :=
  match value with
  | .null => .ok false
  | .bool b => .ok b
  | .number x => .ok !x.isZero
  | _ => .error (.undecidable condition.describe)

/-- The error of a comparison, with null comparisons told by the field. -/
def nameField (field : String) : MatchError → MatchError
  | .query (.orderOfNull _ operator) => .query (.orderOfNull field operator)
  | error => error

namespace Matcher

/-- Whether the value stored for a field satisfies a condition in its stored
form. -/
def storedHolds (matcher : Matcher) (field : String) (condition : Condition) (actual : Value)
    (stored : StoredCondition) : Except MatchError Bool :=
  match stored.value with
  | none => truthOf actual condition
  | some (.literal expected) =>
    match relationHolds matcher.settings actual (stored.operator.getD .eq) expected with
    | .ok result => .ok result
    | .error error => .error (nameField field error)
  | some _ => .error (.undecidable condition.describe)

/-- Whether a row satisfies a condition on one of its fields. -/
def fieldHolds (matcher : Matcher) (entity : String) (row : Row) (field : String)
    (condition : Condition) : Except MatchError Bool :=
  match matcher.codecs entity field with
  | .error error => .error (.compile error)
  | .ok codec =>
    match codec.store condition.operator condition.comparand with
    | .error error => .error (.compile error)
    | .ok stored => matcher.storedHolds field condition (row.value codec.key) stored

/-- Whether a row satisfies a condition whose comparand is resolved. Only a field
of the entity itself can be looked up in a row. -/
def resolvedHolds (matcher : Matcher) (entity : String) (row : Row) (condition : Condition) :
    Except MatchError Bool :=
  match condition.subject with
  | some (.path path) =>
    if hasHop path then .error (.undecidable condition.describe)
    else matcher.fieldHolds entity row path condition
  | _ => .error (.undecidable condition.describe)

/-- Whether a row satisfies a condition, if it imposes anything. -/
def conditionHolds (matcher : Matcher) (entity : String) (row : Row) (condition : Condition) :
    Except MatchError (Option Bool) :=
  match condition.resolved with
  | .error error => .error (.query error)
  | .ok none => .ok none
  | .ok (some condition) =>
    match matcher.resolvedHolds entity row condition with
    | .ok result => .ok (some result)
    | .error error => .error error

mutual

/-- Whether a row satisfies a tree, if it imposes anything. -/
def treeHolds (matcher : Matcher) (entity : String) (row : Row) :
    ScopeTree → Except MatchError (Option Bool)
  | .condition condition => matcher.conditionHolds entity row condition
  | .scope junction children => treesHold matcher entity row junction children

/-- Whether a row satisfies joined trees, if any of them imposes anything. A true
alternative or a false requirement settles the result at once. -/
def treesHold (matcher : Matcher) (entity : String) (row : Row) (junction : Junction) :
    List ScopeTree → Except MatchError (Option Bool)
  | [] => .ok none
  | tree :: rest =>
    match treeHolds matcher entity row tree with
    | .error error => .error error
    | .ok none => treesHold matcher entity row junction rest
    | .ok (some result) =>
      if result == (junction == .or) then .ok (some result)
      else
        match treesHold matcher entity row junction rest with
        | .error error => .error error
        | .ok none => .ok (some result)
        | .ok (some further) => .ok (some further)

end

/-- Whether a row satisfies a tree. One that imposes nothing is satisfied. -/
def treeMatches (matcher : Matcher) (entity : String) (row : Row) (tree : ScopeTree) :
    Except MatchError Bool :=
  (matcher.treeHolds entity row tree).map (·.getD true)

/-- Whether a row satisfies a scope. One that imposes nothing is satisfied. -/
def scopeMatches (matcher : Matcher) (entity : String) (row : Row) (scope : Scope) :
    Except MatchError Bool :=
  (matcher.treesHold entity row scope.junction scope.children).map (·.getD true)

/-- Whether a row is selected. -/
def selectionMatches (matcher : Matcher) (row : Row) (selection : Selection) :
    Except MatchError Bool :=
  matcher.scopeMatches selection.entity row selection.scope

/-- The items whose row is selected, in order; the first error ends it. -/
def filterBy {α : Type} (matcher : Matcher) (selection : Selection) (rowOf : α → Row) :
    List α → Except MatchError (List α)
  | [] => .ok []
  | item :: rest =>
    match matcher.selectionMatches (rowOf item) selection with
    | .error error => .error error
    | .ok kept =>
      match filterBy matcher selection rowOf rest with
      | .error error => .error error
      | .ok items => .ok (if kept then item :: items else items)

/-- The selected rows, in order. -/
def filter (matcher : Matcher) (selection : Selection) (rows : List Row) :
    Except MatchError (List Row) :=
  matcher.filterBy selection id rows

end Matcher

end ScopeQuery
