import ScopeQuery.Regex.Escape

/-!
# Bracketed classes

The notation of classes in brackets: items and ranges are gathered, brackets nest,
and two classes can be intersected, subtracted or compared. Operators bind from
the left and looser than items that stand side by side. With letters standing for
both cases, each operand and each finished class is closed under case.
-/

namespace ScopeQuery.Regex

/-- The operators on classes. -/
inductive ClassOperator where
  /-- The characters of both. -/
  | intersection
  /-- The characters of the left class only. -/
  | difference
  /-- The characters of exactly one. -/
  | symmetricDifference

/-- Applies an operator to two sets. -/
def ClassOperator.apply : ClassOperator → CharSet → CharSet → CharSet
  | .intersection => CharSet.inter
  | .difference => CharSet.diff
  | .symmetricDifference => CharSet.symmDiff

/-- The operator that a doubled character stands for. -/
def ClassOperator.ofChar? : Char → Option ClassOperator
  | '&' => some .intersection
  | '-' => some .difference
  | '~' => some .symmetricDifference
  | _ => none

/-- Something that nests, with how deep. -/
structure Nested (α : Type) where
  /-- What nests. -/
  value : α
  /-- How many levels are inside. -/
  depth : Nat

/-- The items gathered so far: their union, their number and their depth. -/
structure ClassItems where
  /-- The characters of the items. -/
  set : CharSet := CharSet.empty
  /-- How many items there are. -/
  count : Nat := 0
  /-- The depth of the deepest. -/
  depth : Nat := 0

namespace ClassItems

/-- The items with one more. -/
def add (items : ClassItems) (set : CharSet) (depth : Nat) : ClassItems :=
  ⟨items.set.union set, items.count + 1, max items.depth depth⟩

/-- The items as one set; several of them are a level of their own. -/
def toNested (items : ClassItems) : Nested CharSet :=
  ⟨items.set, if items.count ≤ 1 then items.depth else items.depth + 1⟩

end ClassItems

/-- What waits for the class being read. -/
inductive ClassFrame where
  /-- The items before a bracket, and whether the class in it is inverted. -/
  | bracket (outer : ClassItems) (negated : Bool)
  /-- The left operand of an operator. -/
  | operand (operator : ClassOperator) (left : Nested CharSet)

/-- Closes a set under case where letters stand for both cases. -/
def Flags.closed (flags : Flags) (set : CharSet) : CharSet :=
  if flags.anyCase then
    if flags.unicode then set.caseClosed else set.asciiCaseClosed
  else set

/-- Whether all characters of a set are ASCII characters. -/
def isAsciiSet (set : CharSet) : Bool := set.bounds.length % 2 == 0 && set.bounds.all (· ≤ 0x80)

/-- A set that may be used with the flags: without the other scripts, only ASCII
characters can be in one. -/
def Flags.allowed? (flags : Flags) (set : CharSet) : Option CharSet :=
  if flags.unicode || isAsciiSet set then some set else none

/-- A class with its inversion and its case variants. -/
def Flags.finished? (flags : Flags) (set : CharSet) (negated : Bool) : Option CharSet :=
  let set := flags.closed set
  flags.allowed? (if negated then set.complement else set)

/-- The characters that an item stands for, if it stands for characters and the
flags allow them. -/
def Atom.set? (flags : Flags) : Atom → Option CharSet
  | .literal c _ => flags.allowed? (CharSet.single c)
  | .shorthand unicode ascii negated =>
    let set := if flags.unicode then unicode else ascii
    flags.allowed? (if negated then set.complement else set)
  | .property set negated => if flags.unicode then flags.finished? set negated else none
  | .condition _ => none

/-- The ASCII classes with a name of their own. -/
def asciiClass? : String → Option CharSet
  | "alnum" => some ⟨[0x30, 0x3A, 0x41, 0x5B, 0x61, 0x7B]⟩
  | "alpha" => some ⟨[0x41, 0x5B, 0x61, 0x7B]⟩
  | "ascii" => some ⟨[0, 0x80]⟩
  | "blank" => some ⟨[9, 10, 0x20, 0x21]⟩
  | "cntrl" => some ⟨[0, 0x20, 0x7F, 0x80]⟩
  | "digit" => some asciiDigits
  | "graph" => some ⟨[0x21, 0x7F]⟩
  | "lower" => some ⟨[0x61, 0x7B]⟩
  | "print" => some ⟨[0x20, 0x7F]⟩
  | "punct" => some ⟨[0x21, 0x30, 0x3A, 0x41, 0x5B, 0x61, 0x7B, 0x7F]⟩
  | "space" => some asciiBlanks
  | "upper" => some ⟨[0x41, 0x5B]⟩
  | "word" => some asciiWord
  | "xdigit" => some ⟨[0x30, 0x3A, 0x41, 0x47, 0x61, 0x67]⟩
  | _ => none

/-- Reads a named ASCII class after its bracket: a colon, perhaps a caret for the
inverse, the name, a colon and a bracket. -/
def readAsciiClass? : List Char → Option (CharSet × Bool × List Char)
  | ':' :: rest =>
    let (negated, rest) := match rest with
      | '^' :: rest => (true, rest)
      | rest => (false, rest)
    let name := rest.takeWhile (· != ':')
    match rest.drop name.length with
    | ':' :: ']' :: rest => (asciiClass? (String.ofList name)).map fun set => (set, negated, rest)
    | _ => none
  | _ => none

/-- Reads one item of a class. -/
def readClassAtom? (flags : Flags) : List Char → Option (Atom × List Char)
  | [] => none
  | '\\' :: rest => readEscape? flags rest
  | c :: rest => some (.literal c false, rest)

/-- The character an item stands for, if it stands for a single one. -/
def Atom.literal? : Atom → Option Char
  | .literal c _ => some c
  | _ => none

/-- The next character that counts after a hyphen. Inside a comment the first
character that is not blank is taken. -/
def peekPastBlanks (flags : Flags) (rest : List Char) : Option Char :=
  if flags.spaced then
    match rest.dropWhile Text.isBlank with
    | '#' :: rest => (rest.dropWhile Text.isBlank).head?
    | rest => rest.head?
  else rest.head?

/-- Reads an item or a range of a class. -/
def readClassRange? (flags : Flags) (text : List Char) : Option (CharSet × List Char) :=
  match readClassAtom? flags text with
  | none => none
  | some (first, rest) =>
    let single : Option (CharSet × List Char) :=
      (first.set? flags).map fun set => (set, flags.skip rest)
    match flags.skip rest with
    | '-' :: rest =>
      let peeked := peekPastBlanks flags rest
      if peeked == some ']' || peeked == some '-' then single
      else
        match readClassAtom? flags (flags.skip rest) with
        | none => none
        | some (last, rest) =>
          match first.literal?, last.literal? with
          | some low, some high =>
            match first.set? flags, last.set? flags with
            | some _, some _ =>
              if low ≤ high then some (CharSet.range low.toNat high.toNat, rest) else none
            | _, _ => none
          | _, _ => none
    | _ => single

/-- Reads hyphens that stand for themselves. -/
def readHyphens (flags : Flags) (items : ClassItems) : Nat → List Char → ClassItems × List Char
  | 0, text => (items, text)
  | fuel + 1, text =>
    match text with
    | '-' :: rest =>
      readHyphens flags (items.add (CharSet.single '-') 0) fuel (flags.skip rest)
    | text => (items, text)

/-- Reads what comes right after an opening bracket: a caret for the inverse, and
hyphens or else one closing bracket that stand for themselves. -/
def readClassStart (flags : Flags) (text : List Char) : Bool × ClassItems × List Char :=
  let text := flags.skip text
  let (negated, text) := match text with
    | '^' :: rest => (true, flags.skip rest)
    | text => (false, text)
  let (items, text) := readHyphens flags {} text.length text
  match text with
  | ']' :: rest =>
    if items.count == 0 then (negated, items.add (CharSet.single ']') 0, rest)
    else (negated, items, text)
  | text => (negated, items, text)

/-- Applies the operator that waits for a right operand, if one does. -/
def applyOperator (flags : Flags) (right : Nested CharSet) :
    List ClassFrame → Nested CharSet × List ClassFrame
  | .operand operator left :: stack =>
    (⟨operator.apply (flags.closed left.value) (flags.closed right.value),
      max left.depth right.depth + 1⟩, stack)
  | stack => (right, stack)

/-- The state in which a class is read. -/
structure ClassDraft where
  /-- What waits for the class being read. -/
  stack : List ClassFrame
  /-- The items of the class being read. -/
  items : ClassItems

/-- What a step of reading a class comes to. -/
inductive ClassStep where
  /-- More is to be read. -/
  | more (draft : ClassDraft) (rest : List Char)
  /-- The outermost class is closed. -/
  | done (set : Nested CharSet) (rest : List Char)

/-- Opens a class inside the items read so far. -/
def ClassDraft.opened (flags : Flags) (draft : ClassDraft) (text : List Char) : ClassStep :=
  let (negated, items, rest) := readClassStart flags text
  .more ⟨.bracket draft.items negated :: draft.stack, items⟩ rest

/-- Closes the class being read. -/
def ClassDraft.closed? (flags : Flags) (draft : ClassDraft) (rest : List Char) :
    Option ClassStep :=
  match applyOperator flags draft.items.toNested draft.stack with
  | (inner, .bracket outer negated :: stack) =>
    match flags.finished? inner.value negated with
    | none => none
    | some set =>
      if stack.isEmpty then some (.done ⟨set, inner.depth + 1⟩ rest)
      else some (.more ⟨stack, outer.add set (inner.depth + 1)⟩ rest)
  | _ => none

/-- Reads the next piece of a class. -/
def ClassDraft.step? (flags : Flags) (draft : ClassDraft) (text : List Char) :
    Option ClassStep :=
  match flags.skip text with
  | [] => none
  | '[' :: rest =>
    match if draft.stack.isEmpty then none else readAsciiClass? rest with
    | some (set, negated, rest) =>
      (flags.finished? set negated).map fun set => .more ⟨draft.stack, draft.items.add set 0⟩ rest
    | none => some (draft.opened flags rest)
  | ']' :: rest => draft.closed? flags rest
  | c :: rest =>
    match ClassOperator.ofChar? c, rest with
    | some operator, d :: after =>
      if c == d then
        let (left, stack) := applyOperator flags draft.items.toNested draft.stack
        some (.more ⟨.operand operator left :: stack, {}⟩ after)
      else
        (readClassRange? flags (c :: rest)).map fun (set, rest) =>
          .more ⟨draft.stack, draft.items.add set 0⟩ rest
    | _, _ =>
      (readClassRange? flags (c :: rest)).map fun (set, rest) =>
        .more ⟨draft.stack, draft.items.add set 0⟩ rest

/-- Reads the pieces of a class to its end; each piece has to take up something. -/
def ClassDraft.read? (flags : Flags) (draft : ClassDraft) (text : List Char) :
    Option (Nested CharSet × List Char) :=
  match draft.step? flags text with
  | none => none
  | some (.done set rest) => some (set, rest)
  | some (.more draft rest) =>
    if rest.length < text.length then draft.read? flags rest else none
termination_by text.length

/-- Reads a class after its opening bracket. -/
def readClass? (flags : Flags) (text : List Char) : Option (Nested CharSet × List Char) :=
  match (ClassDraft.mk [] {}).opened flags text with
  | .more draft rest => draft.read? flags rest
  | .done set rest => some (set, rest)

end ScopeQuery.Regex
