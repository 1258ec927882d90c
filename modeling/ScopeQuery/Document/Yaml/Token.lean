import ScopeQuery.Document.Yaml.Scalar
import ScopeQuery.Document.Yaml.Tag

/-!
# YAML tokens

The parts of a YAML text in their order: the signs of the notation, scalars, and marks
for the collections that indentation opens and closes. A key on a line of its own is
known by the colon after it only, so its marks are put in front of what was read before:
it has to end on its line, within 1024 characters.
-/

namespace ScopeQuery.Yaml

/-- A part of a YAML text. -/
inductive Token where
  /-- A directive in front of a document. -/
  | directive (directive : Directive)
  /-- The line in front of a document. -/
  | documentStart
  /-- The line after a document. -/
  | documentEnd
  /-- A list opened by indentation. -/
  | blockList
  /-- A mapping opened by indentation. -/
  | blockMapping
  /-- The end of a collection opened by indentation. -/
  | blockEnd
  /-- An opening bracket. -/
  | flowList
  /-- A closing bracket. -/
  | flowListEnd
  /-- An opening brace. -/
  | flowMapping
  /-- A closing brace. -/
  | flowMappingEnd
  /-- The dash in front of an item. -/
  | item
  /-- The comma after an item or entry. -/
  | comma
  /-- What follows is a key. -/
  | key
  /-- What follows is the value of a key. -/
  | value
  /-- A node that stands elsewhere under a name. -/
  | reference (name : String)
  /-- The name of the node that follows. -/
  | anchor (name : String)
  /-- The tag of the node that follows. -/
  | tag (tag : Tag)
  /-- A scalar. -/
  | scalar (style : ScalarStyle) (text : String)
deriving DecidableEq

/-- A place where a key may have started. -/
structure PossibleKey where
  /-- How many tokens stand in front of it. -/
  count : Nat
  /-- Its line. -/
  line : Nat
  /-- Its column. -/
  column : Nat
  /-- Whether nothing but a key can stand there. -/
  required : Bool

/-- A text of which tokens have been read. -/
structure Reading where
  /-- The text that is left. -/
  text : List Placed
  /-- The tokens so far, the last ones first. -/
  tokens : List Token := []
  /-- How many tokens that is. -/
  count : Nat := 0
  /-- The columns of the open collections outside brackets, the innermost first. -/
  columns : List Nat := []
  /-- The possible key inside the innermost brackets. -/
  possible : Option PossibleKey := none
  /-- The possible keys around the brackets that are open, the innermost first. -/
  around : List (Option PossibleKey) := []
  /-- Whether a key may start here. -/
  mayStartKey : Bool := true

namespace Reading

/-- Whether brackets are open. -/
def inFlow (r : Reading) : Bool := !r.around.isEmpty

/-- The least column of lines inside the innermost collection. -/
def least (r : Reading) : Nat := (r.columns.head?.map (· + 1)).getD 0

/-- One more token, and the text after it. -/
def push (r : Reading) (token : Token) (rest : List Placed) : Reading :=
  { r with tokens := token :: r.tokens, count := r.count + 1, text := rest }

/-- A token put in after the first ones. -/
def putIn (r : Reading) (count : Nat) (token : Token) : Reading :=
  let (later, first) := r.tokens.splitAt (r.count - count)
  { r with tokens := later ++ token :: first, count := r.count + 1 }

/-- The text at its next token. Comments run from a number sign to the end of the line. Tabs
may stand between tokens, but outside brackets not where a key may start; a new line there
lets one start. -/
def seek (flow : Bool) : Bool → Bool → List Placed → Bool × List Placed
  | mayStartKey, _, [] => (mayStartKey, [])
  | mayStartKey, comment, here :: rest =>
    let c := here.char
    if isBreak c then seek flow (mayStartKey || !flow) false rest
    else if comment then seek flow mayStartKey true rest
    else if c == ' ' || (c == '\t' && (flow || !mayStartKey)) then
      seek flow mayStartKey false rest
    else if c == '#' then seek flow mayStartKey true rest
    else (mayStartKey, here :: rest)

/-- The reading at its next token. -/
def atNext (r : Reading) : Reading :=
  let (mayStartKey, text) := seek r.inFlow r.mayStartKey false r.text
  { r with text := text, mayStartKey := mayStartKey }

/-- A possible key, unless it can no longer become one. Where a key is required that is an
error. -/
def keepKey? (here : Placed) : Option PossibleKey → Option (Option PossibleKey)
  | none => some none
  | some key =>
    if key.line < here.line || key.column + 1024 < here.column then
      if key.required then none else some none
    else some (some key)

/-- The reading without the keys that can no longer become one. -/
def expireKeys? (r : Reading) (here : Placed) : Option Reading :=
  match keepKey? here r.possible, r.around.mapM (keepKey? here) with
  | some possible, some around => some { r with possible := possible, around := around }
  | _, _ => none

/-- The reading without the possible key of its brackets, which must not be required. -/
def dropKey? (r : Reading) : Option Reading :=
  if r.possible.any (·.required) then none else some { r with possible := none }

/-- Notes that a key may start here. At the column of an open collection outside brackets it
has to. -/
def noteKey? (r : Reading) (here : Placed) : Option Reading :=
  if r.mayStartKey then
    r.dropKey?.map fun r =>
      let required := !r.inFlow && r.columns.head? == some here.column
      { r with possible := some ⟨r.count, here.line, here.column, required⟩ }
  else some r

/-- Ends the innermost collections outside brackets, those whose columns meet a
condition. -/
def closeBlocks (r : Reading) (outside : Nat → Bool) : Reading :=
  if r.inFlow then r
  else
    let (closed, columns) := r.columns.span outside
    { r with
      columns := columns, tokens := closed.map (fun _ => .blockEnd) ++ r.tokens,
      count := r.count + closed.length }

/-- Ends all collections. -/
def closeAll (r : Reading) : Reading := r.closeBlocks fun _ => true

/-- Opens a collection at a column, after some tokens, unless one is open there. -/
def openBlock (r : Reading) (column count : Nat) (token : Token) : Reading :=
  if !r.inFlow && r.columns.head?.all (· < column) then
    { r.putIn count token with columns := column :: r.columns }
  else r

/-- A token that ends all collections: what follows belongs to another document. -/
def edge? (r : Reading) (token : Token) (rest : List Placed) : Option Reading :=
  r.closeAll.dropKey?.map fun r => { r.push token rest with mayStartKey := false }

/-- An opening bracket, which may start a key. -/
def opening? (r : Reading) (here : Placed) (token : Token) (rest : List Placed) :
    Option Reading :=
  (r.noteKey? here).map fun r =>
    { r.push token rest with
      possible := none, around := r.possible :: r.around, mayStartKey := true }

/-- A closing bracket. -/
def closing? (r : Reading) (token : Token) (rest : List Placed) : Option Reading :=
  r.dropKey?.map fun r =>
    let r := { r.push token rest with mayStartKey := false }
    match r.around with
    | [] => r
    | possible :: around => { r with possible := possible, around := around }

/-- A comma. -/
def comma? (r : Reading) (rest : List Placed) : Option Reading :=
  r.dropKey?.map fun r => { r.push .comma rest with mayStartKey := true }

/-- A dash or question mark, which outside brackets has to stand where a key may and opens
a collection there. -/
def leading? (r : Reading) (here : Placed) (token collection : Token) (keyAfter : Bool)
    (rest : List Placed) : Option Reading :=
  if !r.inFlow && !r.mayStartKey then none
  else
    (r.openBlock here.column r.count collection).dropKey?.map fun r =>
      { r.push token rest with mayStartKey := keyAfter }

/-- A colon. After a possible key it makes that one; any other outside brackets has to
stand where a key may. -/
def colon? (r : Reading) (here : Placed) (rest : List Placed) : Option Reading :=
  match r.possible with
  | some key =>
    let r := (r.putIn key.count .key).openBlock key.column key.count .blockMapping
    some { r.push .value rest with possible := none, mayStartKey := false }
  | none =>
    if !r.inFlow && !r.mayStartKey then none
    else
      let r := r.openBlock here.column r.count .blockMapping
      some { r.push .value rest with mayStartKey := !r.inFlow }

/-- A token that may start a key and cannot be followed by another start. -/
def content? (r : Reading) (here : Placed) (found : Option (Token × List Placed)) :
    Option Reading :=
  match r.noteKey? here, found with
  | some r, some (token, rest) => some { r.push token rest with mayStartKey := false }
  | _, _ => none

/-- The name after the sign of an anchor or a reference and the text after it. -/
def name? (text : List Placed) : Option (String × List Placed) :=
  match spanName text with
  | ([], _) => none
  | (name, rest) =>
    if atGap rest ||
      rest.head?.any fun here => ['?', ':', ',', ']', '\x7d', '%', '@', '\x60'].contains here.char
    then some (String.ofList name, rest)
    else none

/-- The tag after its mark. Inside brackets a comma may follow it at once. -/
def tagToken? (r : Reading) (rest : List Placed) : Option (Token × List Placed) :=
  match tag? rest with
  | none => none
  | some (tag, rest) =>
    if atGap rest || (r.inFlow && rest.head?.any (·.char == ',')) then some (.tag tag, rest)
    else none

/-- A block scalar from after its sign. -/
def block? (r : Reading) (style : ScalarStyle) (rest : List Placed) : Option Reading :=
  match r.dropKey?, Yaml.block? style r.least (r.columns.head?.getD 0) rest with
  | some r, some (body, rest) =>
    some { r.push (.scalar style (String.ofList body)) rest with mayStartKey := true }
  | _, _ => none

/-- A scalar without quotes. After it a new line has started, a key may start. -/
def plain? (r : Reading) (here : Placed) : Option Reading :=
  match r.noteKey? here, Yaml.plain? r.inFlow r.least r.text with
  | some r, some (body, crossed, rest) =>
    some { r.push (.scalar .plain (String.ofList body)) rest with mayStartKey := crossed }
  | _, _ => none

/-- Reads the token that starts here. -/
def token? (r : Reading) (here : Placed) (rest : List Placed) : Option Reading :=
  let c := here.char
  if here.column == 0 && c == '%' then
    match directive? rest with
    | none => none
    | some (directive, rest) => r.edge? (.directive directive) rest
  else if atMarker '-' r.text then r.edge? .documentStart (rest.drop 2)
  else if atMarker '.' r.text then r.edge? .documentEnd (rest.drop 2)
  else if c == '[' then r.opening? here .flowList rest
  else if c == '\x7b' then r.opening? here .flowMapping rest
  else if c == ']' then r.closing? .flowListEnd rest
  else if c == '\x7d' then r.closing? .flowMappingEnd rest
  else if c == ',' then r.comma? rest
  else if c == '-' && atGap rest then r.leading? here .item .blockList true rest
  else if c == '?' && (r.inFlow || atGap rest) then
    r.leading? here .key .blockMapping (!r.inFlow) rest
  else if c == ':' && (r.inFlow || atGap rest) then r.colon? here rest
  else if c == '*' then
    r.content? here ((name? rest).map fun (name, rest) => (.reference name, rest))
  else if c == '&' then
    r.content? here ((name? rest).map fun (name, rest) => (.anchor name, rest))
  else if c == '!' then r.content? here (r.tagToken? rest)
  else if c == '|' && !r.inFlow then r.block? .literal rest
  else if c == '>' && !r.inFlow then r.block? .folded rest
  else if c == '\'' || c == '"' then
    r.content? here ((quoted? c rest).map fun (body, rest) =>
      (.scalar .quoted (String.ofList body), rest))
  else if startsPlain r.inFlow r.text then r.plain? here
  else none

/-- Reads all tokens. The fuel bounds them. -/
def tokens? : Nat → Reading → Option (List Token)
  | 0, _ => none
  | fuel + 1, r =>
    let r := r.atNext
    match r.text with
    | [] => r.closeAll.dropKey?.map (·.tokens.reverse)
    | here :: rest =>
      match r.expireKeys? here with
      | none => none
      | some r =>
        match (r.closeBlocks (here.column < ·)).token? here rest with
        | none => none
        | some r => tokens? fuel r

end Reading

/-- The tokens of a text. -/
def Token.ofText? (text : String) : Option (List Token) :=
  match placed? text with
  | none => none
  | some text => ({ text : Reading }).tokens? (text.length + 1)

end ScopeQuery.Yaml
