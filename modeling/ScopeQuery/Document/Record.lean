import ScopeQuery.Document.Basic

/-!
# Records in documents

Documents that stand for records and for named choices. A record is a mapping with
known keys, each at most once, or a list of its fields in their order; unknown keys
are ignored and fields may be left out. A choice is its name, or a mapping of the
name to null.
-/

namespace ScopeQuery.Document

/-- The fields with the given names among named parts. -/
def byName? {α : Type} (names : List String) (parts : List (String × α)) :
    Option (List (Option α)) :=
  if names.all fun name => parts.countP (·.1 == name) ≤ 1 then
    some (names.map fun name => parts.lookup name)
  else none

/-- The fields with the given names that parts in order stand for. -/
def byPosition? {α : Type} (names : List String) (parts : List α) : Option (List (Option α)) :=
  if parts.length ≤ names.length then
    some (parts.map some ++ List.replicate (names.length - parts.length) none)
  else none

/-- The entries of a mapping that have a text key. -/
def named (entries : List (Document × Document)) : List (String × Document) :=
  entries.filterMap fun (key, d) => key.text?.map (·, d)

/-- The fields of a record with the given names, in their order. -/
def record? (names : List String) : Document → Option (List (Option Document))
  | .fields entries => byName? names (named entries)
  | .list items => byPosition? names items
  | _ => none

/-- A field of a record: the default when it is left out, and otherwise what is read
of it. -/
def fieldOr? {α β : Type} (value : α) (read : β → Option α) : Option β → Option α
  | none => some value
  | some part => read part

/-- The name of a choice. -/
def choice? : Document → Option String
  | .text name => some name
  | .fields [(.text name, .null)] => some name
  | _ => none

end ScopeQuery.Document
