import ScopeQuery.Condition.Basic
import ScopeQuery.Vocabulary.Junction

/-!
# Scopes

A scope joins conditions and further scopes with a junction. Negation swaps the
junctions and negates the leaves, so it fails as a whole when one leaf cannot be
negated. Simplifying drops the scopes around a single child. A selection joins
its children with "and" and is bound to the entity whose rows it selects.
-/

namespace ScopeQuery

/-- A condition, or several trees joined into one. -/
inductive ScopeTree where
  /-- A condition. -/
  | condition (condition : Condition)
  /-- Trees joined with a junction. -/
  | scope (junction : Junction) (children : List ScopeTree)

/-- Trees joined with a junction. -/
structure Scope where
  /-- How the children are joined. -/
  junction : Junction
  /-- The joined trees, in order. -/
  children : List ScopeTree

/-- The scope as a tree. -/
def Scope.tree (scope : Scope) : ScopeTree := .scope scope.junction scope.children

namespace ScopeTree

mutual

/-- Whether all leaves of the tree impose nothing. -/
def isEmpty : ScopeTree → Bool
  | .condition c => c.isEmpty
  | .scope _ children => allEmpty children

/-- Whether all leaves of several trees impose nothing. -/
def allEmpty : List ScopeTree → Bool
  | [] => true
  | tree :: rest => isEmpty tree && allEmpty rest

end

mutual

/-- The opposite of the tree. -/
def negate : ScopeTree → Except QueryError ScopeTree
  | .condition c =>
    match c.negate with
    | .ok c => .ok (.condition c)
    | .error error => .error error
  | .scope junction children =>
    match negateAll children with
    | .ok children => .ok (.scope junction.flip children)
    | .error error => .error error

/-- The opposites of several trees; the first that has none is the error. -/
def negateAll : List ScopeTree → Except QueryError (List ScopeTree)
  | [] => .ok []
  | tree :: rest =>
    match negate tree with
    | .error error => .error error
    | .ok tree =>
      match negateAll rest with
      | .ok rest => .ok (tree :: rest)
      | .error error => .error error

end

/-- The tree without the scopes around a single child. Scopes further down are
kept as they are. -/
def simplify : ScopeTree → ScopeTree
  | .scope _ [child] => simplify child
  | tree => tree

mutual

/-- The fields that equal one value wherever the tree holds, with the value. A
scope of several alternatives promises none. -/
def defaults : ScopeTree → List (String × Value)
  | .condition c => c.default?.toList
  | .scope junction children =>
    if junction = .or ∧ 1 < children.length then [] else allDefaults children

/-- The promised fields of several trees, in order. -/
def allDefaults : List ScopeTree → List (String × Value)
  | [] => []
  | tree :: rest => defaults tree ++ allDefaults rest

end

mutual

/-- The conditions of the tree from left to right. -/
def leaves : ScopeTree → List Condition
  | .condition c => [c]
  | .scope _ children => allLeaves children

/-- The conditions of several trees from left to right. -/
def allLeaves : List ScopeTree → List Condition
  | [] => []
  | tree :: rest => leaves tree ++ allLeaves rest

end

end ScopeTree

namespace Scope

/-- A scope without children. -/
def empty (junction : Junction) : Scope := ⟨junction, []⟩

/-- One more child. -/
def add (scope : Scope) (tree : ScopeTree) : Scope :=
  { scope with children := scope.children ++ [tree] }

/-- One more child that is a condition on a path, if its parts fit. -/
def addCondition (scope : Scope) (path : String) (operator : Operator)
    (comparand : Comparand) : Except QueryError Scope :=
  (Condition.compare (.path path) operator comparand).map fun c => scope.add (.condition c)

/-- Whether all leaves impose nothing. -/
def isEmpty (scope : Scope) : Bool := ScopeTree.allEmpty scope.children

/-- Whether there are several children. -/
def isCompound (scope : Scope) : Bool := 1 < scope.children.length

/-- The tree left without the scopes around a single child. -/
def simplify (scope : Scope) : ScopeTree := scope.tree.simplify

/-- The opposite scope. -/
def negate (scope : Scope) : Except QueryError Scope :=
  (ScopeTree.negateAll scope.children).map fun children => ⟨scope.junction.flip, children⟩

end Scope

/-- Which rows of an entity are selected. -/
structure Selection where
  /-- The entity. -/
  entity : String
  /-- The trees that all have to hold. -/
  children : List ScopeTree

namespace Selection

/-- The selection of all rows. -/
def all (entity : String) : Selection := ⟨entity, []⟩

/-- The scope of the children. -/
def scope (selection : Selection) : Scope := ⟨.and, selection.children⟩

/-- One more child. -/
def add (selection : Selection) (tree : ScopeTree) : Selection :=
  { selection with children := selection.children ++ [tree] }

/-- One more child that is a condition on a path, if its parts fit. -/
def addCondition (selection : Selection) (path : String) (operator : Operator)
    (comparand : Comparand) : Except QueryError Selection :=
  (Condition.compare (.path path) operator comparand).map fun c =>
    selection.add (.condition c)

/-- Whether all leaves impose nothing. -/
def isEmpty (selection : Selection) : Bool := selection.scope.isEmpty

/-- A selection has no opposite. -/
def negate (selection : Selection) : Except QueryError Selection :=
  .error (.selectionNegation selection.entity)

/-- The fields that equal one value in every selected row, with the value. -/
def defaults (selection : Selection) : List (String × Value) := selection.scope.tree.defaults

end Selection

end ScopeQuery
