import ScopeQuery.Document.Yaml.Token

/-!
# YAML nodes

The tree of a YAML text, with the names, tags and styles that its nodes were written
with. `Node.ofText?` reads the one document of a text. References are numbered: two
anchors of one name have different numbers, and a reference means the last one in front
of it.
-/

namespace ScopeQuery.Yaml

/-- A node whose anchors are of a type. -/
inductive Node (α : Type) where
  /-- A scalar. -/
  | scalar (anchor : Option α) (tag : Option String) (style : ScalarStyle) (text : String)
  /-- A list. -/
  | list (anchor : Option α) (tag : Option String) (items : List (Node α))
  /-- A mapping, its entries in written order. -/
  | mapping (anchor : Option α) (tag : Option String) (entries : List (Node α × Node α))
  /-- The node of an anchor. -/
  | reference (anchor : α)

/-- What the handles of tags stand for. -/
abbrev Handles := List (String × String)

/-- The handles that every document has, unless it gives them another meaning. -/
def usualHandles : Handles := [("!", "!"), ("!!", "tag:yaml.org,2002:")]

/-- The text of a tag. Its handle must be known. -/
def Handles.resolve? (handles : Handles) (tag : Tag) : Option String :=
  match tag.handle with
  | none => some tag.suffix
  | some handle => (handles.lookup handle).map (· ++ tag.suffix)

/-- The anchor and the tag in front of a node, in either order, and the tokens after them. -/
def properties? (handles : Handles) :
    List Token → Option (Option String × Option String × List Token)
  | .anchor name :: .tag tag :: rest
  | .tag tag :: .anchor name :: rest =>
    (handles.resolve? tag).map fun tag => (some name, some tag, rest)
  | .anchor name :: rest => some (some name, none, rest)
  | .tag tag :: rest => (handles.resolve? tag).map fun tag => (none, some tag, rest)
  | tokens => some (none, none, tokens)

namespace Node

/-- The node that stands where nothing is written. -/
def empty {α : Type} : Node α := .scalar none none .plain ""

/-- Whether the next token is one of some. -/
def atToken (found : List Token) : List Token → Bool
  | [] => false
  | token :: _ => found.contains token

mutual

/-- A node and the tokens after it. With `block` it may be a collection opened by
indentation; with `loose` the items of a list may stand without indentation of their own.
The fuel bounds the calls. -/
def ofTokens? (handles : Handles) (block loose : Bool) :
    Nat → List Token → Option (Node String × List Token)
  | 0, _ => none
  | _ + 1, .reference name :: rest => some (.reference name, rest)
  | fuel + 1, tokens =>
    match properties? handles tokens with
    | none => none
    | some (anchor, tag, tokens) =>
      let nothing : Option (Node String × List Token) :=
        if anchor.isSome || tag.isSome then some (.scalar anchor tag .plain "", tokens) else none
      match tokens with
      | .item :: _ =>
        if loose then
          (looseItems? handles fuel tokens).map fun (items, rest) => (.list anchor tag items, rest)
        else nothing
      | .scalar style text :: rest => some (.scalar anchor (tag.filter (· != "!")) style text, rest)
      | .flowList :: rest =>
        (flowItems? handles fuel rest).map fun (items, rest) => (.list anchor tag items, rest)
      | .flowMapping :: rest =>
        (flowEntries? handles fuel rest).map fun (entries, rest) =>
          (.mapping anchor tag entries, rest)
      | .blockList :: rest =>
        if block then
          (blockItems? handles fuel rest).map fun (items, rest) => (.list anchor tag items, rest)
        else nothing
      | .blockMapping :: rest =>
        if block then
          (blockEntries? handles fuel rest).map fun (entries, rest) =>
            (.mapping anchor tag entries, rest)
        else nothing
      | _ => nothing

/-- A node that may be left out in front of some tokens. -/
def orEmpty? (handles : Handles) (block loose : Bool) (ends : List Token) :
    Nat → List Token → Option (Node String × List Token)
  | 0, _ => none
  | fuel + 1, tokens =>
    if atToken ends tokens then some (empty, tokens)
    else ofTokens? handles block loose fuel tokens

/-- The items of a list opened by indentation. -/
def blockItems? (handles : Handles) :
    Nat → List Token → Option (List (Node String) × List Token)
  | 0, _ => none
  | fuel + 1, .item :: rest =>
    match orEmpty? handles true false [.item, .blockEnd] fuel rest with
    | none => none
    | some (item, rest) =>
      (blockItems? handles fuel rest).map fun (items, rest) => (item :: items, rest)
  | _ + 1, .blockEnd :: rest => some ([], rest)
  | _ + 1, _ => none

/-- The items of a list without indentation of its own. -/
def looseItems? (handles : Handles) :
    Nat → List Token → Option (List (Node String) × List Token)
  | 0, _ => none
  | fuel + 1, .item :: rest =>
    match orEmpty? handles true false [.item, .key, .value, .blockEnd] fuel rest with
    | none => none
    | some (item, rest) =>
      (looseItems? handles fuel rest).map fun (items, rest) => (item :: items, rest)
  | _ + 1, rest => some ([], rest)

/-- The entries of a mapping opened by indentation. -/
def blockEntries? (handles : Handles) :
    Nat → List Token → Option (List (Node String × Node String) × List Token)
  | 0, _ => none
  | fuel + 1, .key :: rest =>
    let ends := [.key, .value, .blockEnd]
    match orEmpty? handles true true ends fuel rest with
    | none => none
    | some (key, rest) =>
      let value := match rest with
        | .value :: rest => orEmpty? handles true true ends fuel rest
        | rest => some (empty, rest)
      match value with
      | none => none
      | some (value, rest) =>
        (blockEntries? handles fuel rest).map fun (entries, rest) => ((key, value) :: entries, rest)
  | _ + 1, .blockEnd :: rest => some ([], rest)
  | _ + 1, _ => none

/-- The items of a list in brackets, from after the opening bracket or a comma. A key and a
value without braces are a mapping of their own. -/
def flowItems? (handles : Handles) :
    Nat → List Token → Option (List (Node String) × List Token)
  | 0, _ => none
  | _ + 1, .flowListEnd :: rest => some ([], rest)
  | fuel + 1, tokens =>
    let item : Option (Node String × List Token) := match tokens with
      | .key :: rest =>
        (flowPair? handles fuel rest).map fun (pair, rest) => (.mapping none none [pair], rest)
      | tokens => ofTokens? handles false false fuel tokens
    match item with
    | none => none
    | some (item, .comma :: rest) =>
      (flowItems? handles fuel rest).map fun (items, rest) => (item :: items, rest)
    | some (item, .flowListEnd :: rest) => some ([item], rest)
    | some _ => none

/-- A key and a value inside brackets. Where the key is left out, the token in its place is
passed over. -/
def flowPair? (handles : Handles) :
    Nat → List Token → Option ((Node String × Node String) × List Token)
  | 0, _ => none
  | fuel + 1, tokens =>
    match orEmpty? handles false false [.value, .comma, .flowListEnd] fuel tokens with
    | none => none
    | some (key, rest) =>
      let rest := if atToken [.value, .comma, .flowListEnd] tokens then tokens.tail else rest
      let value := match rest with
        | .value :: rest => orEmpty? handles false false [.comma, .flowListEnd] fuel rest
        | rest => some (empty, rest)
      value.map fun (value, rest) => ((key, value), rest)

/-- The entries of a mapping in braces, from after the opening brace or a comma. An entry
may be a key alone. -/
def flowEntries? (handles : Handles) :
    Nat → List Token → Option (List (Node String × Node String) × List Token)
  | 0, _ => none
  | _ + 1, .flowMappingEnd :: rest => some ([], rest)
  | fuel + 1, tokens =>
    let entry : Option ((Node String × Node String) × List Token) := match tokens with
      | .key :: rest =>
        match orEmpty? handles false false [.value, .comma, .flowMappingEnd] fuel rest with
        | none => none
        | some (key, .value :: rest) =>
          (orEmpty? handles false false [.comma, .flowMappingEnd] fuel rest).map
            fun (value, rest) => ((key, value), rest)
        | some (key, rest) => some ((key, empty), rest)
      | tokens =>
        (ofTokens? handles false false fuel tokens).map fun (key, rest) => ((key, empty), rest)
    match entry with
    | none => none
    | some (entry, .comma :: rest) =>
      (flowEntries? handles fuel rest).map fun (entries, rest) => (entry :: entries, rest)
    | some (entry, .flowMappingEnd :: rest) => some ([entry], rest)
    | some _ => none

end

/-- The handles that directives give meaning to, and the tokens after them. There may be one
version, which must be known, and one meaning for a handle. -/
def directives? (versioned : Bool) (handles : Handles) :
    List Token → Option (Handles × List Token)
  | .directive (.version major minor) :: rest =>
    if versioned || major != 1 || (minor != 1 && minor != 2) then none
    else directives? true handles rest
  | .directive (.handle handle meaning) :: rest =>
    if (handles.lookup handle).isSome then none
    else directives? versioned ((handle, meaning) :: handles) rest
  | tokens => some (handles, tokens)

/-- Whether a document ends in front of some tokens. -/
def atEdge : List Token → Bool
  | [] => true
  | token :: _ =>
    match token with
    | .directive _ | .documentStart | .documentEnd => true
    | _ => false

/-- The document in front of some tokens and the tokens after it, or none where the text has
no document. -/
def document? (tokens : List Token) : Option (Option (Node String) × List Token) :=
  let fuel := 4 * tokens.length + 4
  match tokens, directives? false [] tokens with
  | [], _ => some (none, [])
  | _, some (handles, .documentStart :: rest) =>
    if atEdge rest then some (some empty, rest)
    else
      (ofTokens? (handles ++ usualHandles) true false fuel rest).map fun (node, rest) =>
        (some node, rest)
  | .directive _ :: _, _ => none
  | tokens, _ =>
    (ofTokens? usualHandles true false fuel tokens).map fun (node, rest) => (some node, rest)

/-- The names of anchors with their numbers, the last ones first. -/
abbrev Names := List (String × Nat)

/-- A number for an anchor: how many names were known in front of it. -/
def Names.put (names : Names) (anchor : Option String) : Names :=
  match anchor with
  | none => names
  | some name => (name, names.length) :: names.filter (·.1 != name)

/-- The number of an anchor. -/
def Names.number (names : Names) (anchor : Option String) : Option Nat :=
  anchor.map fun _ => names.length

mutual

/-- A node with its anchors numbered. Its references must be to anchors in front of them. -/
def numbered? (names : Names) : Node String → Option (Node Nat × Names)
  | .scalar anchor tag style text =>
    some (.scalar (names.number anchor) tag style text, names.put anchor)
  | .list anchor tag items =>
    (numberedItems? (names.put anchor) items).map fun (items, after) =>
      (.list (names.number anchor) tag items, after)
  | .mapping anchor tag entries =>
    (numberedEntries? (names.put anchor) entries).map fun (entries, after) =>
      (.mapping (names.number anchor) tag entries, after)
  | .reference name => (names.lookup name).map fun number => (.reference number, names)

/-- Several nodes with their anchors numbered. -/
def numberedItems? (names : Names) : List (Node String) → Option (List (Node Nat) × Names)
  | [] => some ([], names)
  | node :: rest =>
    match numbered? names node with
    | none => none
    | some (node, names) =>
      (numberedItems? names rest).map fun (rest, names) => (node :: rest, names)

/-- Several entries with their anchors numbered. -/
def numberedEntries? (names : Names) :
    List (Node String × Node String) → Option (List (Node Nat × Node Nat) × Names)
  | [] => some ([], names)
  | (key, value) :: rest =>
    match numbered? names key with
    | none => none
    | some (key, names) =>
      match numbered? names value with
      | none => none
      | some (value, names) =>
        (numberedEntries? names rest).map fun (rest, names) => ((key, value) :: rest, names)

end

mutual

/-- The nodes of a tree that have anchors, the outer ones first. -/
def anchored : Node Nat → List (Nat × Node Nat)
  | .scalar anchor tag style text =>
    anchor.toList.map fun number => (number, .scalar anchor tag style text)
  | .list anchor tag items =>
    (anchor.toList.map fun number => (number, .list anchor tag items)) ++ anchoredItems items
  | .mapping anchor tag entries =>
    (anchor.toList.map fun number => (number, .mapping anchor tag entries)) ++
      anchoredEntries entries
  | .reference _ => []

/-- The nodes among several trees that have anchors. -/
def anchoredItems : List (Node Nat) → List (Nat × Node Nat)
  | [] => []
  | node :: rest => anchored node ++ anchoredItems rest

/-- The nodes among several entries that have anchors. -/
def anchoredEntries : List (Node Nat × Node Nat) → List (Nat × Node Nat)
  | [] => []
  | (key, value) :: rest => anchored key ++ anchored value ++ anchoredEntries rest

end

mutual

/-- How many scalars, references and ends of collections a tree has. -/
def partCount : Node Nat → Nat
  | .scalar .. | .reference _ => 1
  | .list _ _ items => partCountItems items + 2
  | .mapping _ _ entries => partCountEntries entries + 2

/-- The count of several trees. -/
def partCountItems : List (Node Nat) → Nat
  | [] => 0
  | node :: rest => partCount node + partCountItems rest

/-- The count of several entries. -/
def partCountEntries : List (Node Nat × Node Nat) → Nat
  | [] => 0
  | (key, value) :: rest => partCount key + partCount value + partCountEntries rest

end

/-- The document of a text, or none where it has no document. Nothing but marks that end
documents may follow it. -/
def ofText? (text : String) : Option (Option (Node Nat)) :=
  match Token.ofText? text with
  | none => none
  | some tokens =>
    match document? tokens with
    | none => none
    | some (node, rest) =>
      if !rest.all (· == .documentEnd) then none
      else
        match node with
        | none => some none
        | some node => (numbered? [] node).map fun (node, _) => some node

end Node

end ScopeQuery.Yaml
