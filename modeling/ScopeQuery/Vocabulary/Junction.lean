/-!
# Junctions

The two ways of joining conditions.
-/

namespace ScopeQuery

/-- How several conditions are joined into one. -/
inductive Junction where
  /-- All of them hold. -/
  | and
  /-- One of them holds. -/
  | or
deriving DecidableEq

namespace Junction

/-- The keyword, also the name in data documents. -/
def sql : Junction → String
  | .and => "and"
  | .or => "or"

/-- The other junction. -/
def flip : Junction → Junction
  | .and => .or
  | .or => .and

/-- The junction with exactly this name. -/
def ofDocumentName? (name : String) : Option Junction :=
  [Junction.and, Junction.or].find? fun junction => junction.sql == name

end Junction

end ScopeQuery
