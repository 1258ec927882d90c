import ScopeQuery.Condition.ConditionText
import ScopeQuery.Document.Basic
import ScopeQuery.Scope.Basic

/-!
# Scope documents

A scope written as a data document: a condition text, or a group of up to three
lists. All items of the first list have to hold, some item of the second, and
not all items of the third. A group is a mapping with the keys `all`, `any` and
`not`, or a list of up to three lists in that order; other keys are ignored, a
repeated one of the three is an error, and a null stands for a list left out.
-/

namespace ScopeQuery

/-- A scope document. -/
inductive ScopeDocument where
  /-- The text of a condition. -/
  | condition (text : String)
  /-- A group of lists, each of which may be left out. -/
  | group (all any not : Option (List ScopeDocument))

namespace ScopeDocument

/-- The position of the list a key of a mapping names, and none for a key that
is ignored. A key is a name or a position; other keys are an error. -/
def listPosition? : Document → Option (Option (Fin 3))
  | .text name =>
    some (match name with
      | "all" => some 0
      | "any" => some 1
      | "not" => some 2
      | _ => none)
  | .number (.natural n) =>
    some (match n with
      | 0 => some 0
      | 1 => some 1
      | 2 => some 2
      | _ => none)
  | _ => none

/-- The lists found so far in a mapping; the outer option says whether the key
occurred. -/
structure FoundLists where
  /-- The list under the key `all`. -/
  all : Option (Option (List ScopeDocument)) := none
  /-- The list under the key `any`. -/
  any : Option (Option (List ScopeDocument)) := none
  /-- The list under the key `not`. -/
  not : Option (Option (List ScopeDocument)) := none

/-- One more list found; a second one at a position is an error. -/
def FoundLists.insert? (found : FoundLists) (position : Fin 3)
    (list : Option (List ScopeDocument)) : Option FoundLists :=
  match position with
  | 0 => if found.all.isSome then none else some { found with all := some list }
  | 1 => if found.any.isSome then none else some { found with any := some list }
  | 2 => if found.not.isSome then none else some { found with not := some list }

/-- The group of the lists found. -/
def FoundLists.group (found : FoundLists) : ScopeDocument :=
  .group (found.all.getD none) (found.any.getD none) (found.not.getD none)

mutual

/-- The scope document that a data document is, if it has the shape of one. -/
def ofDocument? : Document → Option ScopeDocument
  | .text text => some (.condition text)
  | .list items =>
    match lists? items with
    | some [] => some (.group none none none)
    | some [all] => some (.group all none none)
    | some [all, any] => some (.group all any none)
    | some [all, any, not] => some (.group all any not)
    | _ => none
  | .fields entries =>
    match entries? {} entries with
    | some found => some found.group
    | none => none
  | _ => none

/-- A list of scope documents, left out when null. -/
def list? : Document → Option (Option (List ScopeDocument))
  | .null => some none
  | .list items =>
    match documents? items with
    | some documents => some (some documents)
    | none => none
  | _ => none

/-- Several lists of scope documents. -/
def lists? : List Document → Option (List (Option (List ScopeDocument)))
  | [] => some []
  | d :: rest =>
    match list? d, lists? rest with
    | some list, some lists => some (list :: lists)
    | _, _ => none

/-- Several scope documents. -/
def documents? : List Document → Option (List ScopeDocument)
  | [] => some []
  | d :: rest =>
    match ofDocument? d, documents? rest with
    | some document, some documents => some (document :: documents)
    | _, _ => none

/-- The lists of a mapping's entries. -/
def entries? (found : FoundLists) : List (Document × Document) → Option FoundLists
  | [] => some found
  | (key, d) :: rest =>
    match listPosition? key with
    | none => none
    | some none => entries? found rest
    | some (some position) =>
      match list? d with
      | none => none
      | some list =>
        match found.insert? position list with
        | none => none
        | some found => entries? found rest

end

mutual

/-- The tree of a document: a condition, or the scope of a group. -/
def tree (context : ParseContext) : ScopeDocument → Except QueryError ScopeTree
  | .condition text =>
    match parseCondition context text with
    | .ok leaf => .ok (.condition leaf)
    | .error error => .error error
  | .group all any not =>
    match listTrees context all with
    | .error error => .error error
    | .ok all =>
      match listTrees context any with
      | .error error => .error error
      | .ok any =>
        match listTrees context not with
        | .error error => .error error
        | .ok not =>
          match (not.map ScopeTree.negateAll : Option (Except QueryError (List ScopeTree))) with
          | some (.error error) => .error error
          | some (.ok negated) =>
            .ok (.scope .and (all.getD [] ++ (any.map (.scope .or)).toList ++
              [.scope .or negated]))
          | none => .ok (.scope .and (all.getD [] ++ (any.map (.scope .or)).toList))

/-- The trees of a list that may be left out. -/
def listTrees (context : ParseContext) :
    Option (List ScopeDocument) → Except QueryError (Option (List ScopeTree))
  | none => .ok none
  | some items =>
    match trees context items with
    | .ok trees => .ok (some trees)
    | .error error => .error error

/-- The trees of several documents, in order. -/
def trees (context : ParseContext) : List ScopeDocument → Except QueryError (List ScopeTree)
  | [] => .ok []
  | document :: rest =>
    match tree context document with
    | .error error => .error error
    | .ok first =>
      match trees context rest with
      | .ok following => .ok (first :: following)
      | .error error => .error error

end

/-- The scope of a document; a condition is the only child of its scope. -/
def scope (context : ParseContext) (document : ScopeDocument) : Except QueryError Scope :=
  match tree context document with
  | .ok (.scope junction children) => .ok ⟨junction, children⟩
  | .ok (.condition leaf) => .ok ⟨.and, [.condition leaf]⟩
  | .error error => .error error

/-- The selection of an entity's rows by a document. -/
def selection (context : ParseContext) (entity : String) (document : ScopeDocument) :
    Except QueryError Selection :=
  match scope context document with
  | .ok scope => .ok ⟨entity, [scope.tree]⟩
  | .error error => .error error

end ScopeDocument

end ScopeQuery
