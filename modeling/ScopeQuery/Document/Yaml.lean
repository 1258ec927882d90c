import ScopeQuery.Document.Record
import ScopeQuery.Document.Yaml.Meaning
import ScopeQuery.Document.Yaml.Node

/-!
# YAML texts

Reading a YAML text as a data document, and as a record whose fields are known. A
reference stands for the node of its anchor. A document has no node with a tag of the
text's own; at most 128 lists and mappings stand inside one another, and at most a
hundred references are followed for each part of the text. In a record such tags name
choices, and other tags only tell where a truth value is meant.
-/

namespace ScopeQuery.Yaml

/-- The nodes of a tree that have anchors, the last ones first. -/
abbrev Anchors := List (Nat × Node Nat)

/-- The nodes of a tree that have anchors. -/
def Anchors.of (root : Node Nat) : Anchors := root.anchored.reverse

/-- The node itself or the one it refers to. -/
def Anchors.follow? (anchors : Anchors) : Node Nat → Option (Node Nat)
  | .reference number => anchors.lookup number
  | node => some node

/-- How many lists and mappings may stand inside one another. -/
def depthLimit : Nat := 128

/-- Reads items one after another, each with what is left of a count. -/
def readAll? {α β : Type} (read : Nat → α → Option (β × Nat)) :
    Nat → List α → Option (List β × Nat)
  | left, [] => some ([], left)
  | left, item :: rest =>
    match read left item with
    | none => none
    | some (first, left) =>
      (readAll? read left rest).map fun (following, left) => (first :: following, left)

/-- The document of a node, where `depth` more lists and mappings may stand inside one
another and `left` more references be followed; also how many are left after it. -/
def document? (anchors : Anchors) (depth left : Nat) (node : Node Nat) :
    Option (Document × Nat) :=
  let left? : Option Nat := match node, left with
    | .reference _, 0 => none
    | .reference _, left + 1 => some left
    | _, left => some left
  match left?, anchors.follow? node, depth with
  | some left, some (.scalar _ tag style text), _ =>
    (scalarDocument? tag style text).map fun d => (d, left)
  | some left, some (.list _ tag items), depth + 1 =>
    if isOwnTag tag then none
    else
      (readAll? (fun left node => document? anchors depth left node) left items).map
        fun (items, left) => (.list items, left)
  | some left, some (.mapping _ tag entries), depth + 1 =>
    if isOwnTag tag then none
    else
      let entry? := fun (left : Nat) (entry : Node Nat × Node Nat) =>
        match document? anchors depth left entry.1 with
        | none => none
        | some (key, left) =>
          (document? anchors depth left entry.2).map fun (value, left) => ((key, value), left)
      (readAll? entry? left entries).map fun (entries, left) => (.fields entries, left)
  | _, _, _ => none

/-- The document that a YAML text holds. -/
def read? (text : String) : Option Document :=
  match Node.ofText? text with
  | some (some root) =>
    (document? (Anchors.of root) depthLimit (100 * root.partCount) root).map (·.1)
  | _ => none

/-- The text of a scalar, however it is written. -/
def text? (anchors : Anchors) (node : Node Nat) : Option String :=
  match anchors.follow? node with
  | some (.scalar _ _ _ text) => some text
  | _ => none

/-- The fields of a record with the given names, in their order. A text without a document,
or with an empty one, leaves all of them out. -/
def record? (names : List String) : Option (Node Nat) → Option (List (Option (Node Nat)))
  | none => some (names.map fun _ => none)
  | some (.scalar _ _ .plain "") => some (names.map fun _ => none)
  | some (.list _ _ items) => Document.byPosition? names items
  | some (.mapping anchor tag entries) =>
    let anchors := Anchors.of (.mapping anchor tag entries)
    match entries.mapM fun (key, value) => (text? anchors key).map (·, value) with
    | none => none
    | some entries => Document.byName? names entries
  | _ => none

/-- The truth value of a field. -/
def bool? (anchors : Anchors) (node : Node Nat) : Option Bool :=
  match anchors.follow? node with
  | some (.scalar _ tag style text) =>
    if style == .plain || (style == .literal && tag == some "tag:yaml.org,2002:bool") then
      truth? text
    else none
  | _ => none

/-- The name of a choice: the text of a scalar, or a tag of the text's own on one that
stands for null. -/
def choice? (anchors : Anchors) (node : Node Nat) : Option String :=
  match anchors.follow? node with
  | some (.scalar _ tag style text) =>
    if isOwnTag tag then
      if style == .plain && (text == "" || isNullWord text) then
        tag.map fun tag => String.ofList tag.toList.tail
      else none
    else some text
  | _ => none

end ScopeQuery.Yaml
