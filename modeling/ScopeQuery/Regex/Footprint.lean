import ScopeQuery.Regex.Basic

/-!
# The memory of compiled expressions

A search of large texts compiles an expression to two automata over the bytes of
UTF-8, one for each direction, and a limit on their memory refuses expressions
that would grow too large. The memory is a sum over the states of the automata:
each takes 32 bytes, a transition of a state with several takes 8 more, and a
branch of a choice 4 more. An expression that stands for a few given texts is
searched for without automata and needs no memory.
-/

namespace ScopeQuery.Regex

/-- The bytes that a state takes. -/
def stateBytes : Nat := 32

/-- The bytes that a transition takes in a state with several. -/
def transitionBytes : Nat := 8

/-- The bytes that a branch of a choice takes. -/
def branchBytes : Nat := 4

/-- A range of bytes. -/
abbrev ByteRange := Nat × Nat

/-- The UTF-8 encoding of a code point. -/
def utf8Bytes (point : Nat) : List Nat :=
  if point < 0x80 then [point]
  else if point < 0x800 then [0xC0 + point / 64, 0x80 + point % 64]
  else if point < 0x10000 then
    [0xE0 + point / 4096, 0x80 + point / 64 % 64, 0x80 + point % 64]
  else
    [0xF0 + point / 262144, 0x80 + point / 4096 % 64, 0x80 + point / 64 % 64,
      0x80 + point % 64]

/-- A range cut where a block of code points ends that a boundary runs through;
blocks have a given size and whole ones stay together. -/
def cutAtBlocks (block : Nat) (range : Nat × Nat) : List (Nat × Nat) :=
  let (first, last) := range
  if first / block == last / block then [range]
  else
    let low := if first % block == 0 then first else (first / block + 1) * block
    let high := if (last + 1) % block == 0 then last + 1 else last / block * block
    (if first < low then [(first, low - 1)] else []) ++
      (if low < high then [(low, high - 1)] else []) ++
      (if high ≤ last then [(high, last)] else [])

/-- The part of a range that lies between two code points, if any. -/
def clip (low high : Nat) (range : Nat × Nat) : List (Nat × Nat) :=
  if max low range.1 ≤ min high range.2 then [(max low range.1, min high range.2)] else []

/-- A range cut so that each piece is encoded by independent ranges of bytes. The
code points of surrogates have no encoding. -/
def utf8Pieces (range : Nat × Nat) : List (Nat × Nat) :=
  let pieces := [(0, 0x7F), (0x80, 0x7FF), (0x800, 0xD7FF), (0xE000, 0xFFFF),
    (0x10000, 0x10FFFF)].flatMap fun (low, high) => clip low high range
  pieces.flatMap fun piece =>
    if piece.2 ≤ 0x7F then [piece]
    else [64, 4096, 262144].foldl (fun pieces block => pieces.flatMap (cutAtBlocks block)) [piece]

/-- The ranges of bytes that encode a set, piece by piece in ascending order. -/
def utf8Paths (set : CharSet) : List (List ByteRange) :=
  (set.ranges.flatMap utf8Pieces).map fun (first, last) =>
    (utf8Bytes first).zip (utf8Bytes last)

/-- The remainders of neighbouring paths with the same first range. -/
def groupPaths : List (List ByteRange) → List (ByteRange × List (List ByteRange))
  | [] => []
  | [] :: rest => groupPaths rest
  | (range :: path) :: rest =>
    match groupPaths rest with
    | [] => [(range, [path])]
    | (next, paths) :: groups =>
      if next == range then (range, path :: paths) :: groups
      else (range, [path]) :: (next, paths) :: groups

/-- The states of a tree of paths, each by the paths that go on from it; the
fuel bounds the length of the paths. -/
def treeStates : Nat → List (List ByteRange) → List (List (List ByteRange))
  | 0, _ => []
  | fuel + 1, paths =>
    paths :: (groupPaths paths).flatMap fun (_, rest) =>
      if rest == [[]] then [] else treeStates fuel rest

/-- The bytes of the automaton of a set that reads forwards: states from which the
same paths go on are one. -/
def forwardSetBytes (set : CharSet) : Nat :=
  let states := (treeStates 4 (utf8Paths set)).eraseDups
  states.foldl (fun n paths => n + stateBytes + transitionBytes * (groupPaths paths).length)
    stateBytes

/-- How many ranges of a path go beyond what it shares with another from the
start. -/
def freshSteps : List ByteRange → List ByteRange → Nat
  | a :: other, b :: path => if a == b then freshSteps other path else path.length + 1
  | _, path => path.length

/-- The ranges of paths that are not shared with the path before. -/
def freshStates (before : List ByteRange) : List (List ByteRange) → Nat
  | [] => 0
  | path :: rest => freshSteps before path + freshStates path rest

/-- The bytes of the automaton of a set that reads backwards: paths share the
states of the ranges they start with. -/
def backwardSetBytes (set : CharSet) : Nat :=
  let paths := utf8Paths set
  stateBytes * (2 + freshStates [] paths) + branchBytes * paths.length

/-- The direction in which a text is read. -/
inductive Direction where
  | forward
  | backward
deriving DecidableEq

/-- The bytes of the automaton of a set: one state for each byte of a single
character, two for ASCII characters. -/
def setBytes (direction : Direction) (set : CharSet) : Nat :=
  match set.ranges with
  | [] => stateBytes * 2
  | [(first, last)] =>
    if first == last then stateBytes * (utf8Bytes first).length
    else if last < 0x80 then stateBytes * 2
    else match direction with
      | .forward => forwardSetBytes set
      | .backward => backwardSetBytes set
  | ranges =>
    if ranges.all (·.2 < 0x80) then stateBytes * 2 + transitionBytes * ranges.length
    else match direction with
      | .forward => forwardSetBytes set
      | .backward => backwardSetBytes set

/-- Whether only the empty text can match, whatever the position. -/
def isVoid : Regex → Bool
  | .empty => true
  | .seq first second => first.isVoid && second.isVoid
  | .repeated body least most => most == some 0 || (body.isVoid && least == 1 && most == some 1)
  | _ => false

/-- Whether the empty text can match. -/
def admitsEmpty : Regex → Bool
  | .empty => true
  | .chars _ => false
  | .look _ => true
  | .seq first second => first.admitsEmpty && second.admitsEmpty
  | .alt left right => left.admitsEmpty || right.admitsEmpty
  | .repeated body least _ => least == 0 || body.admitsEmpty
  | .captured body => body.admitsEmpty

/-- Whether no text but the empty one can match. -/
def admitsOnlyEmpty : Regex → Bool
  | .empty => true
  | .chars _ => false
  | .look _ => true
  | .seq first second => first.admitsOnlyEmpty && second.admitsOnlyEmpty
  | .alt left right => left.admitsOnlyEmpty && right.admitsOnlyEmpty
  | .repeated body _ most => most == some 0 || body.admitsOnlyEmpty
  | .captured body => body.admitsOnlyEmpty

/-- The set that a choice between sets amounts to. -/
def choiceSet? : Regex → Option CharSet
  | .chars set => some set
  | .alt left right =>
    match left.choiceSet?, right.choiceSet? with
    | some left, some right => some (left.union right)
    | _, _ => none
  | _ => none

/-- How many branches a choice has. -/
def branchCount : Regex → Nat
  | .alt left right => left.branchCount + right.branchCount
  | _ => 1

/-- The bytes of a repetition whose body takes some. Where only the empty text can
match, once is enough; a further choice follows each optional round. -/
def repetitionBytes (body least : Nat) (most : Option Nat) (emptyBody onlyEmpty : Bool) : Nat :=
  let choice := stateBytes + 2 * branchBytes
  let (least, most) :=
    if onlyEmpty then (min least 1, some (min (most.getD 1) 1)) else (least, most)
  match least, most with
  | 0, some 0 => stateBytes
  | 1, some 1 => body
  | 0, some 1 => body + choice + stateBytes
  | 0, none => if emptyBody then body + 2 * choice + stateBytes else body + choice
  | least, none => least * body + choice
  | least, some most =>
    if least == most then least * body
    else (if least == 0 then stateBytes else least * body) + stateBytes +
      (most - least) * (body + choice)

/-- The bytes of the states of an expression read in a direction. Choices between
sets are one set, and nested choices are one choice. -/
def bytes (direction : Direction) : Regex → Nat
  | .empty => stateBytes
  | .chars set => setBytes direction set
  | .look _ => stateBytes
  | .seq first second =>
    if first.isVoid then second.bytes direction
    else if second.isVoid then first.bytes direction
    else first.bytes direction + second.bytes direction
  | .alt left right =>
    match (Regex.alt left right).choiceSet? with
    | some set => setBytes direction set
    | none =>
      let branches (regex : Regex) (bytes : Nat) : Nat :=
        match regex with
        | .alt _ _ =>
          if regex.choiceSet?.isSome then bytes
          else bytes - 2 * stateBytes - branchBytes * regex.branchCount
        | _ => bytes
      branches left (left.bytes direction) + branches right (right.bytes direction) +
        2 * stateBytes + branchBytes * (left.branchCount + right.branchCount)
  | .repeated body least most =>
    repetitionBytes (body.bytes direction) least most body.admitsEmpty body.admitsOnlyEmpty
  | .captured body =>
    body.bytes direction + match direction with
      | .forward => 2 * stateBytes
      | .backward => 0

/-- Whether every match starts where the text does. -/
def startsText : Regex → Bool
  | .look condition => condition == .textStart
  | .seq first second => first.startsText || (first.admitsOnlyEmpty && second.startsText)
  | .alt left right => left.startsText && right.startsText
  | .repeated body least _ => least != 0 && body.startsText
  | .captured body => body.startsText
  | _ => false

/-- Whether every match ends where the text does. -/
def endsText : Regex → Bool
  | .look condition => condition == .textEnd
  | .seq first second => second.endsText || (second.admitsOnlyEmpty && first.endsText)
  | .alt left right => left.endsText && right.endsText
  | .repeated body least _ => least != 0 && body.endsText
  | .captured body => body.endsText
  | _ => false

/-- The bytes of the states that let a match start anywhere. -/
def anywhereBytes (anchored : Bool) : Nat :=
  if anchored then stateBytes else 3 * stateBytes + 2 * branchBytes

/-- The largest number of texts that are searched for directly. -/
def textLimit : Nat := 250

/-- Texts that are a first and then a second one, unless they are too many. -/
def crossTexts? (first second : List (List Char)) : Option (List (List Char)) :=
  if first.length * second.length ≤ textLimit then
    some (first.flatMap fun a => second.map (a ++ ·))
  else none

/-- A number of texts in a row. -/
def powerTexts? (texts : List (List Char)) : Nat → Option (List (List Char))
  | 0 => some [[]]
  | n + 1 => (powerTexts? texts n).bind (crossTexts? texts)

/-- The few texts an expression stands for. Conditions and captures, large sets and
open repetitions stand for none in particular. -/
def texts? : Regex → Option (List (List Char))
  | .empty => some [[]]
  | .chars set =>
    if 0 < set.size && set.size ≤ 10 then
      some (set.ranges.flatMap fun (first, last) =>
        (List.range (last + 1 - first)).map fun i => [Char.ofNat (first + i)])
    else none
  | .look _ => none
  | .seq first second =>
    match first.texts?, second.texts? with
    | some first, some second => crossTexts? first second
    | _, _ => none
  | .alt left right =>
    match left.texts?, right.texts? with
    | some left, some right =>
      if left.length + right.length ≤ textLimit then some (left ++ right) else none
    | _, _ => none
  | .repeated body least most =>
    match body.texts? with
    | none => none
    | some texts =>
      match least, most with
      | 0, some 1 => some ([] :: texts)
      | least, some most => if least == most && least ≤ 10 then powerTexts? texts least else none
      | _, none => none
  | .captured _ => none

/-- Whether the expression stands for a few texts, none of them empty. -/
def isTexts (regex : Regex) : Bool :=
  match regex.texts? with
  | some texts => !texts.isEmpty && texts.all fun text => !text.isEmpty && text.length ≤ 100
  | none => false

/-- The memory that compiling an expression needs: that of the larger automaton,
or none. -/
def footprint (regex : Regex) : Nat :=
  if regex.isTexts then 0
  else
    max (anywhereBytes regex.startsText + 3 * stateBytes + regex.bytes .forward)
      (anywhereBytes regex.endsText + stateBytes + regex.bytes .backward)

end ScopeQuery.Regex
