import ScopeQuery.Regex.Class

/-!
# Patterns

The notation of regular expressions. A pattern is read piece by piece with a stack
of open groups; a group is the list of its branches and the items of the branch
being read. Anything that is not valid in the notation makes the whole pattern
invalid, as does nesting deeper than 250 levels.
-/

namespace ScopeQuery.Regex

/-- An item of a branch. -/
inductive BranchItem where
  /-- An expression, which a repetition can follow. -/
  | expression (regex : Nested Regex)
  /-- A change of flags, which none can follow. -/
  | flags

/-- A group that is being read. -/
structure OpenGroup where
  /-- The branches already read, the last one first. -/
  branches : List (Nested Regex) := []
  /-- The items of the current branch, the last one first. -/
  items : List BranchItem := []
  /-- The flags that hold again after the group. -/
  after : Flags
  /-- Whether the group captures its text. -/
  captures : Bool

/-- The state in which a pattern is read: the flags in force, the names of the
groups so far, the innermost group and those around it. -/
structure PatternDraft where
  /-- The flags in force. -/
  flags : Flags
  /-- The names of groups read so far. -/
  names : List (List Char)
  /-- The innermost group. -/
  group : OpenGroup
  /-- The groups around it, the nearest first. -/
  outer : List OpenGroup

/-- How many levels a pattern can nest. -/
def nestLimit : Nat := 250

/-- The items of a branch as one expression; several are a level of their own. -/
def branchOf (items : List BranchItem) : Nested Regex :=
  let regexes := items.reverse.filterMap fun
    | .expression regex => some regex
    | .flags => none
  let depth := regexes.foldl (fun depth regex => max depth regex.depth) 0
  let regex := match regexes with
    | [] => .empty
    | regexes => concat (regexes.map (·.value))
  ⟨regex, if items.length ≤ 1 then depth else depth + 1⟩

namespace OpenGroup

/-- The group with one more item. -/
def push (group : OpenGroup) (item : BranchItem) : OpenGroup :=
  { group with items := item :: group.items }

/-- The group with its current branch ended. -/
def endBranch (group : OpenGroup) : OpenGroup :=
  { group with branches := branchOf group.items :: group.branches, items := [] }

/-- The content of the group as one expression; several branches are a level of
their own. -/
def content (group : OpenGroup) : Nested Regex :=
  match group.branches with
  | [] => branchOf group.items
  | branches =>
    let all := (branchOf group.items :: branches).reverse
    ⟨oneOf (all.map (·.value)), all.foldl (fun depth regex => max depth regex.depth) 0 + 1⟩

/-- Replaces the last item by a repetition of it, if it can be repeated. -/
def repeatLast? (group : OpenGroup) (least : Nat) (most : Option Nat) : Option OpenGroup :=
  match group.items with
  | .expression regex :: items =>
    some { group with
      items := .expression ⟨.repeated regex.value least most, regex.depth + 1⟩ :: items }
  | _ => none

end OpenGroup

/-- The expression of a single character under the flags. -/
def literalRegex? (flags : Flags) (c : Char) (byte : Bool) : Option Regex :=
  if !flags.unicode && byte && 128 ≤ c.toNat then none
  else if !flags.anyCase then some (.char c)
  else if flags.unicode then some (.chars (CharSet.variantsOf c))
  else some (.chars (CharSet.single c).asciiCaseClosed)

/-- The expression of an item under the flags. -/
def Atom.regex? (flags : Flags) : Atom → Option Regex
  | .literal c byte => literalRegex? flags c byte
  | .condition required => some (.look required)
  | atom => (atom.set? flags).map .chars

/-- The expression of the dot: all characters, or all that end no line. It stands
for characters of all scripts or is not valid. -/
def dotRegex? (flags : Flags) : Option Regex :=
  if !flags.unicode then none
  else if flags.dotAll then some (.chars CharSet.full)
  else if flags.returns then
    some (.chars ((CharSet.single '\n').union (CharSet.single '\r')).complement)
  else some (.chars (CharSet.single '\n').complement)

/-- The expression of the caret. -/
def caretRegex (flags : Flags) : Regex :=
  .look (if flags.lines then if flags.returns then .returnLineStart else .lineStart
    else .textStart)

/-- The expression of the dollar sign. -/
def dollarRegex (flags : Flags) : Regex :=
  .look (if flags.lines then if flags.returns then .returnLineEnd else .lineEnd else .textEnd)

/-- The largest number of repetitions that can be written. -/
def countLimit : Nat := 4294967295

/-- Reads decimal digits, passing over what does not count between them. -/
def readDigits (flags : Flags) : Nat → List Char → List Char × List Char
  | 0, text => ([], text)
  | fuel + 1, text =>
    match text with
    | c :: rest =>
      if '0' ≤ c && c ≤ '9' then
        let (digits, rest) := readDigits flags fuel (flags.skip rest)
        (c :: digits, rest)
      else ([], text)
    | [] => ([], [])

/-- Reads a number of repetitions with blanks around it. -/
def readCount? (flags : Flags) (text : List Char) : Option (Nat × List Char) :=
  let text := text.dropWhile Text.isBlank
  let (digits, rest) := readDigits flags (text.length + 1) text
  if digits.isEmpty then none
  else
    let count := digits.foldl (fun n c => n * 10 + (c.toNat - '0'.toNat)) 0
    if count ≤ countLimit then some (count, rest.dropWhile Text.isBlank) else none

/-- Reads the numbers of a counted repetition after its brace: exactly, at least,
or between two numbers in order. -/
def readCounts? (flags : Flags) (text : List Char) : Option (Nat × Option Nat × List Char) :=
  match readCount? flags (flags.skip text) with
  | none => none
  | some (least, '\x7d' :: rest) => some (least, some least, rest)
  | some (least, ',' :: rest) =>
    match flags.skip rest with
    | '\x7d' :: rest => some (least, none, rest)
    | text =>
      match readCount? flags text with
      | some (most, '\x7d' :: rest) => if least ≤ most then some (least, some most, rest) else none
      | _ => none
  | _ => none

/-- The text after a question mark that makes a repetition lazy. -/
def pastLazy : List Char → List Char
  | '?' :: rest => rest
  | rest => rest

/-- Whether a character can start the name of a group. -/
def startsGroupName (c : Char) : Bool :=
  c == '_' || (if c.toNat < 128 then c.isAlpha else Unicode.alphabetic.contains c)

/-- Whether a character can go on with the name of a group. -/
def continuesGroupName (c : Char) : Bool :=
  c == '_' || c == '.' || c == '[' || c == ']' ||
    (if c.toNat < 128 then c.isAlphanum else Unicode.alphanumeric.contains c)

/-- Reads the name of a group up to its angle bracket. -/
def readGroupName? (text : List Char) : Option (List Char × List Char) :=
  let name := text.takeWhile (· != '>')
  match name, text.drop name.length with
  | c :: more, '>' :: rest =>
    if startsGroupName c && more.all continuesGroupName then some (name, rest) else none
  | _, _ => none

namespace PatternDraft

/-- The draft with one more expression. -/
def push (draft : PatternDraft) (regex : Nested Regex) : PatternDraft :=
  { draft with group := draft.group.push (.expression regex) }

/-- The draft inside a group that opens here, read under some flags. -/
def openGroup (draft : PatternDraft) (flags : Flags) (captures : Bool) : PatternDraft :=
  { draft with
    flags
    group := { after := draft.flags, captures }
    outer := draft.group :: draft.outer }

/-- The draft after the innermost group, if one is open. -/
def closeGroup? (draft : PatternDraft) : Option PatternDraft :=
  match draft.outer with
  | [] => none
  | around :: outer =>
    let content := draft.group.content
    let regex := if draft.group.captures then .captured content.value else content.value
    some { draft with
      flags := draft.group.after
      group := around.push (.expression ⟨regex, content.depth + 1⟩)
      outer }

/-- The draft inside a named group. -/
def openNamed? (draft : PatternDraft) (text : List Char) : Option (PatternDraft × List Char) :=
  match readGroupName? text with
  | none => none
  | some (name, rest) =>
    if draft.names.contains name then none
    else some ({ draft with names := name :: draft.names }.openGroup draft.flags true, rest)

/-- Reads what follows an opening parenthesis. Conditions on the text around are
not part of the notation. -/
def readOpening? (draft : PatternDraft) (text : List Char) : Option (PatternDraft × List Char) :=
  match draft.flags.skip text with
  | '?' :: '=' :: _ => none
  | '?' :: '!' :: _ => none
  | '?' :: '<' :: '=' :: _ => none
  | '?' :: '<' :: '!' :: _ => none
  | '?' :: 'P' :: '<' :: rest => draft.openNamed? rest
  | '?' :: '<' :: rest => draft.openNamed? rest
  | '?' :: rest =>
    match readFlags? { flags := draft.flags } rest with
    | none => none
    | some (.standing, flags, rest) =>
      some ({ draft with flags, group := draft.group.push .flags }, rest)
    | some (.opening, flags, rest) => some (draft.openGroup flags false, rest)
  | rest => some (draft.openGroup draft.flags true, rest)

/-- The draft with its last item repeated. -/
def repeatLast? (draft : PatternDraft) (least : Nat) (most : Option Nat) : Option PatternDraft :=
  (draft.group.repeatLast? least most).map fun group => { draft with group }

/-- Reads the next piece of a pattern. -/
def step? (draft : PatternDraft) : List Char → Option (PatternDraft × List Char)
  | [] => none
  | '(' :: rest => draft.readOpening? rest
  | ')' :: rest => draft.closeGroup?.map fun draft => (draft, rest)
  | '|' :: rest => some ({ draft with group := draft.group.endBranch }, rest)
  | '[' :: rest =>
    (readClass? draft.flags rest).map fun (set, rest) =>
      (draft.push ⟨.chars set.value, set.depth⟩, rest)
  | '?' :: rest => (draft.repeatLast? 0 (some 1)).map fun draft => (draft, pastLazy rest)
  | '*' :: rest => (draft.repeatLast? 0 none).map fun draft => (draft, pastLazy rest)
  | '+' :: rest => (draft.repeatLast? 1 none).map fun draft => (draft, pastLazy rest)
  | '\x7b' :: rest =>
    match readCounts? draft.flags rest with
    | none => none
    | some (least, most, rest) =>
      (draft.repeatLast? least most).map fun next => (next, pastLazy (draft.flags.skip rest))
  | '\\' :: rest =>
    match readEscape? draft.flags rest with
    | none => none
    | some (atom, rest) =>
      (atom.regex? draft.flags).map fun regex => (draft.push ⟨regex, 0⟩, rest)
  | '.' :: rest => (dotRegex? draft.flags).map fun regex => (draft.push ⟨regex, 0⟩, rest)
  | '^' :: rest => some (draft.push ⟨caretRegex draft.flags, 0⟩, rest)
  | '$' :: rest => some (draft.push ⟨dollarRegex draft.flags, 0⟩, rest)
  | c :: rest =>
    (literalRegex? draft.flags c false).map fun regex => (draft.push ⟨regex, 0⟩, rest)

/-- Reads pieces to the end of the pattern; each piece has to take up something. -/
def read? (draft : PatternDraft) (text : List Char) : Option PatternDraft :=
  match _rest : draft.flags.skip text with
  | [] => some draft
  | c :: rest =>
    match draft.step? (c :: rest) with
    | none => none
    | some (draft, after) =>
      if after.length < text.length then draft.read? after else none
termination_by text.length

end PatternDraft

/-- The expression that a pattern denotes, if it is valid. -/
def ofPattern? (pattern : String) : Option Regex :=
  let flags : Flags := {}
  match (PatternDraft.mk flags [] { after := flags, captures := false } []).read? pattern.toList with
  | none => none
  | some draft =>
    if draft.outer.isEmpty && draft.group.content.depth ≤ nestLimit then
      some draft.group.content.value
    else none

end ScopeQuery.Regex
