/-!
# Entities

An entity is a table as a query refers to it: the selected one by its name, one
that a hop leads to by an alias. The depth counts the hops.
-/

namespace ScopeQuery

/-- An entity as a query refers to it. -/
structure Entity where
  /-- The name, which is also that of its table. -/
  name : String
  /-- The alias of the table, for an entity that was reached by a hop. -/
  aliasName : Option String
  /-- The number of hops to it. -/
  depth : Nat
deriving DecidableEq

namespace Entity

/-- The entity a query selects from. -/
def root (name : String) : Entity := ⟨name, none, 0⟩

/-- How the query refers to the entity. -/
def reference (entity : Entity) : String := entity.aliasName.getD entity.name

/-- A column of the entity with the reference in front. -/
def qualify (entity : Entity) (column : String) : String :=
  entity.reference ++ "." ++ column

/-- The alias of a table reached by a hop: the hop's first character and the
depth, after an underscore. -/
def hopAlias (hop : String) (depth : Nat) : String :=
  String.ofList ('_' :: (hop.toList.head?.getD 'r') :: (toString depth).toList)

/-- The entity of a table that a hop leads to. -/
def reached (parent : Entity) (hop table : String) : Entity :=
  ⟨table, some (hopAlias hop (parent.depth + 1)), parent.depth + 1⟩

end Entity

end ScopeQuery
