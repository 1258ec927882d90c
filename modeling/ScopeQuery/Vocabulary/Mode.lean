/-!
# Statement modes

The six kinds of statement.
-/

namespace ScopeQuery

/-- What a statement does. -/
inductive Mode where
  /-- Read rows. -/
  | select
  /-- Add a row. -/
  | insert
  /-- Change rows. -/
  | update
  /-- Remove rows. -/
  | delete
  /-- Add a row or replace the one with its key. -/
  | replace
  /-- Remove every row. -/
  | truncate
deriving DecidableEq

namespace Mode

/-- Every mode. -/
def all : List Mode := [.select, .insert, .update, .delete, .replace, .truncate]

/-- The name, also in data documents. -/
def name : Mode → String
  | .select => "select"
  | .insert => "insert"
  | .update => "update"
  | .delete => "delete"
  | .replace => "replace"
  | .truncate => "truncate"

/-- The mode with exactly this name. -/
def ofDocumentName? (name : String) : Option Mode := all.find? fun mode => mode.name == name

end Mode

end ScopeQuery
