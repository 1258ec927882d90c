import ScopeQuery.Document.Yaml.Place

/-!
# Scalar bodies

What the scalars of a YAML text hold: those in quotes, those without, and those
written as a block of lines. A gap with line breaks inside a scalar of the first
two kinds is folded: one break is a blank, more are one break less.
-/

namespace ScopeQuery.Yaml

/-- How a scalar is written. -/
inductive ScalarStyle where
  /-- Without quotes. -/
  | plain
  /-- In quotes. -/
  | quoted
  /-- As a block whose line breaks stand for themselves. -/
  | literal
  /-- As a block whose line breaks are folded. -/
  | folded
deriving DecidableEq

/-- The characters that line breaks inside a scalar stand for. -/
def foldBreaks : List Char → List Char
  | ['\n'] => [' ']
  | '\n' :: more => more
  | breaks => breaks

/-- The characters that a gap inside a scalar stands for. -/
def foldGap (gap : List Char) : List Char :=
  if gap.any isBreak then foldBreaks (gap.filter isBreak) else gap

/-- The body of a scalar in single quotes, where a doubled quote is one, and the
text after it. No line inside may part documents. The fuel bounds the steps. -/
def singleQuoted? : Nat → List Placed → Option (List Char × List Placed)
  | 0, _ => none
  | _ + 1, [] => none
  | fuel + 1, here :: rest =>
    if isGap here.char then
      let (gap, rest) := spanGap (here :: rest)
      if atDocumentEdge rest then none
      else (singleQuoted? fuel rest).map fun (body, rest) => (foldGap gap ++ body, rest)
    else if here.char == '\'' then
      match rest with
      | ⟨'\'', _, _⟩ :: rest =>
        (singleQuoted? fuel rest).map fun (body, rest) => ('\'' :: body, rest)
      | rest => some ([], rest)
    else (singleQuoted? fuel rest).map fun (body, rest) => (here.char :: body, rest)

/-- The character that a one-letter escape names. -/
def namedEscape? : Char → Option Char
  | '0' => some '\x00'
  | 'a' => some '\x07'
  | 'b' => some '\x08'
  | 't' => some '\t'
  | '\t' => some '\t'
  | 'n' => some '\n'
  | 'v' => some '\x0b'
  | 'f' => some '\x0c'
  | 'r' => some '\r'
  | 'e' => some '\x1b'
  | ' ' => some ' '
  | '"' => some '"'
  | '/' => some '/'
  | '\\' => some '\\'
  | 'N' => some '\x85'
  | '_' => some '\xa0'
  | 'L' => some '\u2028'
  | 'P' => some '\u2029'
  | _ => none

/-- How many hexadecimal digits follow the letter of an escape. -/
def escapeDigits? : Char → Option Nat
  | 'x' => some 2
  | 'u' => some 4
  | 'U' => some 8
  | _ => none

/-- The character an escape names, after its backslash, and the text after it. -/
def escape? : List Placed → Option (Char × List Placed)
  | [] => none
  | here :: rest =>
    match namedEscape? here.char with
    | some named => some (named, rest)
    | none =>
      match escapeDigits? here.char with
      | none => none
      | some digits =>
        match hexNumber? digits 0 rest with
        | none => none
        | some (value, rest) =>
          if value.isValidChar then some (Char.ofNat value, rest) else none

/-- The body of a scalar in double quotes and the text after it. An escaped line
break joins two lines. The fuel bounds the steps. -/
def doubleQuoted? : Nat → List Placed → Option (List Char × List Placed)
  | 0, _ => none
  | _ + 1, [] => none
  | fuel + 1, here :: rest =>
    if isGap here.char then
      let (gap, rest) := spanGap (here :: rest)
      if atDocumentEdge rest then none
      else (doubleQuoted? fuel rest).map fun (body, rest) => (foldGap gap ++ body, rest)
    else if here.char == '"' then some ([], rest)
    else if here.char == '\\' then
      if rest.head?.any (isBreak ·.char) then
        let (gap, rest) := spanGap rest.tail
        if atDocumentEdge rest then none
        else (doubleQuoted? fuel rest).map fun (body, rest) => (gap.filter isBreak ++ body, rest)
      else
        match escape? rest with
        | none => none
        | some (c, rest) => (doubleQuoted? fuel rest).map fun (body, rest) => (c :: body, rest)
    else (doubleQuoted? fuel rest).map fun (body, rest) => (here.char :: body, rest)

/-- The body of a scalar in the given quotes, from after the first, and the text
after it. -/
def quoted? (quote : Char) (text : List Placed) : Option (List Char × List Placed) :=
  if quote == '"' then doubleQuoted? (text.length + 1) text
  else singleQuoted? (text.length + 1) text

/-- Whether a character marks the parts of a list or mapping in brackets. -/
def isFlowMark (c : Char) : Bool := [',', '[', ']', '\x7b', '\x7d'].contains c

/-- Whether a scalar without quotes can start here, inside brackets or outside. -/
def startsPlain (flow : Bool) : List Placed → Bool
  | [] => false
  | here :: rest =>
    if here.char == '-' then !atGap rest
    else if here.char == '?' || here.char == ':' then !flow && !atGap rest
    else !(isGap here.char || isFlowMark here.char ||
      ['#', '&', '*', '!', '|', '>', '\'', '"', '%', '@', '\x60'].contains here.char)

/-- The characters of a scalar without quotes up to a gap, and the text after them.
Inside brackets a colon in front of a bracket, comma or question mark is
an error. -/
def plainWord? (flow : Bool) : List Placed → Option (List Char × List Placed)
  | [] => some ([], [])
  | here :: rest =>
    let c := here.char
    let next := rest.head?.map (·.char)
    if flow && c == ':' && next.any (fun d => isFlowMark d || d == '?') then none
    else if isGap c || (c == ':' && atGap rest) || (flow && isFlowMark c) then
      some ([], here :: rest)
    else (plainWord? flow rest).map fun (word, rest) => (c :: word, rest)

/-- Whether a tab stands in the indentation of a gap's lines, that is in front of the
least column of a line that starts in the gap. -/
def hasTabIndent (least : Nat) : Bool → List Placed → Bool
  | _, [] => false
  | crossed, here :: rest =>
    if isBreak here.char then hasTabIndent least true rest
    else if isBlank here.char then
      (crossed && here.char == '\t' && here.column < least) || hasTabIndent least crossed rest
    else false

/-- What is left of a scalar without quotes from a gap on: further words, as long as
lines are indented to the least column. Gives the characters, whether the gap after the
last word crosses lines, and the text after that gap. The fuel bounds the words. -/
def plainRest? (flow : Bool) (least : Nat) :
    Nat → List Placed → Option (List Char × Bool × List Placed)
  | 0, _ => none
  | fuel + 1, text =>
    if hasTabIndent least false text then none
    else
      let (gap, rest) := spanGap text
      let crossed := gap.any isBreak
      let ended := match rest with
        | [] => true
        | here :: _ =>
          gap.isEmpty || here.char == '#' || atDocumentEdge rest ||
            (crossed && !flow && here.column < least)
      if ended then some ([], crossed, rest)
      else
        match plainWord? flow rest with
        | none => none
        | some ([], rest) => some ([], crossed, rest)
        | some (word, rest) =>
          (plainRest? flow least fuel rest).map fun (more, crossed, rest) =>
            (foldGap gap ++ word ++ more, crossed, rest)

/-- A scalar without quotes: its characters, whether the gap after it crosses lines, and
the text after that gap. -/
def plain? (flow : Bool) (least : Nat) (text : List Placed) :
    Option (List Char × Bool × List Placed) :=
  match plainWord? flow text with
  | none => none
  | some (word, rest) =>
    (plainRest? flow least (rest.length + 1) rest).map fun (more, crossed, rest) =>
      (word ++ more, crossed, rest)

/-- What a block scalar does with the line breaks at its end. -/
inductive Chomping where
  /-- Drops them. -/
  | strip
  /-- Keeps the first. -/
  | clip
  /-- Keeps them all. -/
  | keep
deriving DecidableEq

/-- The chomping that a sign asks for. -/
def Chomping.ofSign? : Char → Option Chomping
  | '+' => some .keep
  | '-' => some .strip
  | _ => none

/-- The indentation that a digit asks for; it cannot be zero. -/
def indentation? (c : Char) : Option Nat :=
  if '1' ≤ c && c ≤ '9' then some (c.toNat - '0'.toNat) else none

/-- The header of a block scalar: its chomping and the indentation asked for, in either
order, and the text after its line. -/
def blockHeader? (text : List Placed) : Option (Chomping × Option Nat × List Placed) :=
  let sign := fun here : Placed => Chomping.ofSign? here.char
  let digit := fun here : Placed => indentation? here.char
  let (chomping, asked, rest) := match text with
    | [] => (none, none, [])
    | here :: rest =>
      match sign here, digit here, rest with
      | none, none, rest => (none, none, here :: rest)
      | some chomping, _, [] => (some chomping, none, [])
      | some chomping, _, next :: rest =>
        match digit next with
        | some asked => (some chomping, some asked, rest)
        | none => (some chomping, none, next :: rest)
      | none, some asked, [] => (none, some asked, [])
      | none, some asked, next :: rest =>
        match sign next with
        | some chomping => (some chomping, some asked, rest)
        | none => (none, some asked, next :: rest)
  (pastLine? rest).map fun rest => (chomping.getD .clip, asked, rest)

/-- The indentation and the empty lines at the front of a text: the line breaks, the
furthest column of the indentation, and the text after them. With a bound no line is
indented further than to that column; a tab in front of it is an error. -/
def indentedBreaks? (bound : Option Nat) : List Placed → Option (List Char × Nat × List Placed)
  | [] => some ([], 0, [])
  | here :: rest =>
    let before := bound.all (here.column < ·)
    if before && here.char == ' ' then
      (indentedBreaks? bound rest).map fun (breaks, furthest, rest) =>
        (breaks, max furthest (here.column + 1), rest)
    else if before && here.char == '\t' then none
    else if isBreak here.char then
      (indentedBreaks? bound rest).map fun (breaks, furthest, rest) =>
        (here.char :: breaks, furthest, rest)
    else some ([], 0, here :: rest)

/-- A line up to its break, the break if there is one, and the text after it. -/
def spanLine : List Placed → List Char × List Char × List Placed
  | [] => ([], [], [])
  | here :: rest =>
    if isBreak here.char then ([], [here.char], rest)
    else
      let (line, ending, rest) := spanLine rest
      (here.char :: line, ending, rest)

/-- The lines of a block scalar from the breaks in front of them on: what they hold, the
break after the last line and the empty lines after that, and the text after them.
A break between two lines is folded unless one of them starts with a blank. The fuel
bounds the lines. -/
def blockLines? (style : ScalarStyle) (indent : Nat) (afterBlank : Bool)
    (ending breaks : List Char) :
    Nat → List Placed → Option (List Char × List Char × List Char × List Placed)
  | 0, _ => none
  | _ + 1, [] => some ([], ending, breaks, [])
  | fuel + 1, here :: rest =>
    if here.column != indent then some ([], ending, breaks, here :: rest)
    else
      let onBlank := isBlank here.char
      let gap :=
        if style == .folded && ending == ['\n'] && !afterBlank && !onBlank then
          if breaks.isEmpty then [' '] else breaks
        else ending ++ breaks
      let (line, ending, rest) := spanLine (here :: rest)
      match indentedBreaks? (some indent) rest with
      | none => none
      | some (breaks, _, rest) =>
        (blockLines? style indent onBlank ending breaks fuel rest).map
          fun (more, ending) => (gap ++ line ++ more, ending)

/-- The body of a block scalar, from after its sign, and the text after it. `least` is the
least column of its lines and `base` the column that an indentation asked for is counted
from. -/
def block? (style : ScalarStyle) (least base : Nat) (text : List Placed) :
    Option (List Char × List Placed) :=
  match blockHeader? text with
  | none => none
  | some (chomping, asked, rest) =>
    match indentedBreaks? (asked.map (base + ·)) rest with
    | none => none
    | some (breaks, furthest, rest) =>
      let indent := match asked with
        | some asked => base + asked
        | none => max furthest (max least 1)
      (blockLines? style indent false [] breaks (rest.length + 1) rest).map
        fun (body, ending, breaks, rest) =>
          match chomping with
          | .strip => (body, rest)
          | .clip => (body ++ ending, rest)
          | .keep => (body ++ ending ++ breaks, rest)

end ScopeQuery.Yaml
