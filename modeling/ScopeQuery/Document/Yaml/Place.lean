import ScopeQuery.Number.Basic

/-!
# Placed characters

A YAML text as characters that know their line and column, since indentation is
part of the notation. The line ends of all systems are line feeds; a line
separator and a paragraph separator also end lines and stay what they are.
-/

namespace ScopeQuery.Yaml

/-- A character with its place, counted from zero. -/
structure Placed where
  /-- The character. -/
  char : Char
  /-- Its line. -/
  line : Nat
  /-- Its column. -/
  column : Nat

/-- Whether a character may stand in a text at all. -/
def isPrintable (c : Char) : Bool :=
  let n := c.toNat
  n == 9 || n == 10 || n == 13 || (0x20 ≤ n && n ≤ 0x7E) || n == 0x85 ||
    (0xA0 ≤ n && n ≤ 0xFFFD) || 0x10000 ≤ n

/-- Whether a character ends a line. -/
def isBreak (c : Char) : Bool := c == '\n' || c == '\u2028' || c == '\u2029'

/-- Whether a character separates words of a line. -/
def isBlank (c : Char) : Bool := c == ' ' || c == '\t'

/-- Whether a character separates words. -/
def isGap (c : Char) : Bool := isBlank c || isBreak c

/-- Whether a character may stand in a name. -/
def isNameChar (c : Char) : Bool := c.isAlphanum || c == '_' || c == '-'

/-- A text with carriage returns and next-line characters made line feeds, and pairs
of return and feed one. -/
def normalBreaks : List Char → List Char
  | [] => []
  | '\r' :: '\n' :: rest => '\n' :: normalBreaks rest
  | '\r' :: rest => '\n' :: normalBreaks rest
  | '\x85' :: rest => '\n' :: normalBreaks rest
  | c :: rest => c :: normalBreaks rest

/-- The characters of a text with their places, the first one's given. -/
def place (line column : Nat) : List Char → List Placed
  | [] => []
  | c :: rest =>
    ⟨c, line, column⟩ ::
      if isBreak c then place (line + 1) 0 rest else place line (column + 1) rest

/-- The placed characters of a text, if all of them may stand in one. A byte order
mark at the start takes a column and is passed over. -/
def placed? (text : String) : Option (List Placed) :=
  let characters := text.toList
  if characters.all isPrintable then
    match place 0 0 (normalBreaks characters) with
    | ⟨'\ufeff', _, _⟩ :: rest => some rest
    | text => some text
  else none

/-- Whether a text is at a gap or its end. -/
def atGap : List Placed → Bool
  | [] => true
  | here :: _ => isGap here.char

/-- Whether a line at its first column parts documents with a given sign. -/
def atMarker (sign : Char) : List Placed → Bool
  | a :: b :: c :: rest =>
    a.column == 0 && a.char == sign && b.char == sign && c.char == sign && atGap rest
  | _ => false

/-- Whether a line at its first column parts documents. -/
def atDocumentEdge (text : List Placed) : Bool := atMarker '-' text || atMarker '.' text

/-- A gap at the front of a text and the text after it. -/
def spanGap : List Placed → List Char × List Placed
  | [] => ([], [])
  | here :: rest =>
    if isGap here.char then
      let (gap, rest) := spanGap rest
      (here.char :: gap, rest)
    else ([], here :: rest)

/-- The name at the front of a text and the text after it. -/
def spanName : List Placed → List Char × List Placed
  | [] => ([], [])
  | here :: rest =>
    if isNameChar here.char then
      let (name, rest) := spanName rest
      (here.char :: name, rest)
    else ([], here :: rest)

/-- The text after the blanks at its front. -/
def skipBlanks (text : List Placed) : List Placed := text.dropWhile fun here => isBlank here.char

/-- The text after the rest of a line, which may hold blanks and a comment only. -/
def pastLine? (text : List Placed) : Option (List Placed) :=
  let comment := fun text : List Placed => text.dropWhile fun here => !isBreak here.char
  match skipBlanks text with
  | [] => some []
  | here :: rest =>
    match if here.char == '#' then comment rest else here :: rest with
    | [] => some []
    | here :: rest => if isBreak here.char then some rest else none

/-- The value of a hexadecimal digit. -/
def hexValue? (c : Char) : Option Nat :=
  if '0' ≤ c && c ≤ '9' then some (c.toNat - '0'.toNat)
  else if 'a' ≤ c && c ≤ 'f' then some (c.toNat - 'a'.toNat + 10)
  else if 'A' ≤ c && c ≤ 'F' then some (c.toNat - 'A'.toNat + 10)
  else none

/-- The value of a number of hexadecimal digits and the text after them. -/
def hexNumber? : Nat → Nat → List Placed → Option (Nat × List Placed)
  | 0, value, rest => some (value, rest)
  | _ + 1, _, [] => none
  | n + 1, value, here :: rest =>
    match hexValue? here.char with
    | none => none
    | some digit => hexNumber? n (value * 16 + digit) rest

end ScopeQuery.Yaml
