import ScopeQuery.Regex.Flags
import ScopeQuery.Unicode.Age
import ScopeQuery.Unicode.Fold
import ScopeQuery.Unicode.Segmentation

/-!
# Escapes in patterns

What a backslash and the characters after it stand for: a character, a class, or a
condition on the position. A reader takes the characters after the backslash and
returns what they stand for with the rest of the pattern, or nothing where the
escape is not valid.
-/

namespace ScopeQuery.Regex

/-- What a single item of a pattern stands for. -/
inductive Atom where
  /-- A character; `byte` tells that it is written as two hexadecimal digits. -/
  | literal (c : Char) (byte : Bool)
  /-- A class that is not changed by the case of letters: digits, blanks, word
  characters, all of them in two scopes, and whether it is inverted. -/
  | shorthand (unicode ascii : CharSet) (negated : Bool)
  /-- The characters with a property, or those without. -/
  | property (set : CharSet) (negated : Bool)
  /-- A condition on the position. -/
  | condition (required : Look)

/-- The digits of ASCII. -/
def asciiDigits : CharSet := CharSet.range 0x30 0x39

/-- The blanks of ASCII. -/
def asciiBlanks : CharSet := (CharSet.range 9 13).union (CharSet.range 0x20 0x20)

/-- The word characters of ASCII. -/
def asciiWord : CharSet := ⟨[0x30, 0x3A, 0x41, 0x5B, 0x5F, 0x60, 0x61, 0x7B]⟩

/-- The shorthand class of a letter. -/
def shorthand? : Char → Option Atom
  | 'd' => some (.shorthand ⟨Unicode.decimalNumberBounds⟩ asciiDigits false)
  | 'D' => some (.shorthand ⟨Unicode.decimalNumberBounds⟩ asciiDigits true)
  | 's' => some (.shorthand ⟨Unicode.whiteSpaceBounds⟩ asciiBlanks false)
  | 'S' => some (.shorthand ⟨Unicode.whiteSpaceBounds⟩ asciiBlanks true)
  | 'w' => some (.shorthand Unicode.wordSet asciiWord false)
  | 'W' => some (.shorthand Unicode.wordSet asciiWord true)
  | _ => none

/-- The value of a hexadecimal digit. -/
def hexDigit? (c : Char) : Option Nat :=
  if '0' ≤ c && c ≤ '9' then some (c.toNat - '0'.toNat)
  else if 'a' ≤ c && c ≤ 'f' then some (c.toNat - 'a'.toNat + 10)
  else if 'A' ≤ c && c ≤ 'F' then some (c.toNat - 'A'.toNat + 10)
  else none

/-- The character with a code point. -/
def charAt? (point : Nat) : Option Char :=
  if point.isValidChar then some (Char.ofNat point) else none

/-- Reads a given number of hexadecimal digits. -/
def readHexDigits? (flags : Flags) : Nat → Nat → List Char → Option (Nat × List Char)
  | 0, value, text => some (value, text)
  | n + 1, value, text =>
    match flags.skip text with
    | [] => none
    | c :: rest =>
      match hexDigit? c with
      | none => none
      | some digit => readHexDigits? flags n (value * 16 + digit) rest

/-- Reads the characters up to a closing brace, leaving out what counts as blank.
The fuel bounds their number. -/
def readBraced? (flags : Flags) : Nat → List Char → Option (List Char × List Char)
  | 0, _ => none
  | fuel + 1, text =>
    match flags.skip text with
    | [] => none
    | '\x7d' :: rest => some ([], rest)
    | c :: rest => (readBraced? flags fuel rest).map fun (inner, rest) => (c :: inner, rest)

/-- The value of a text of hexadecimal digits. -/
def hexValue? (digits : List Char) : Option Nat :=
  digits.foldl (fun value c => value.bind fun value => (hexDigit? c).map (value * 16 + ·)) (some 0)

/-- Reads a character by its number, in braces or in as many digits as the letter
before asks for. -/
def readHex? (flags : Flags) (digits : Nat) (text : List Char) : Option (Atom × List Char) :=
  match flags.skip text with
  | [] => none
  | '\x7b' :: rest =>
    match readBraced? flags (rest.length + 1) rest with
    | none => none
    | some (inner, rest) =>
      if inner.isEmpty then none
      else ((hexValue? inner).bind charAt?).map fun c => (.literal c false, flags.skip rest)
  | text =>
    match readHexDigits? flags digits 0 text with
    | none => none
    | some (value, rest) => (charAt? value).map fun c => (.literal c (digits == 2), flags.skip rest)

/-- A spelling without case, blanks, hyphens, underscores and other than ASCII
characters, and without "is" in front. -/
def reducedSpelling (spelling : List Char) : String :=
  let reduce (text : List Char) : List Char :=
    (text.filter fun c => c.toNat < 128 && c != ' ' && c != '_' && c != '-').map Char.toLower
  match spelling with
  | i :: s :: rest =>
    if i.toLower == 'i' && s.toLower == 's' then
      if reduce rest == ['c'] then "isc" else String.ofList (reduce rest)
    else String.ofList (reduce spelling)
  | _ => String.ofList (reduce spelling)

/-- The characters a property, a general category or a script stands for. Three
categories have abbreviations that are also those of other properties; there the
category is meant. -/
def namedChars? (spelling : List Char) : Option CharSet :=
  let name := reducedSpelling spelling
  let property :=
    if name == "cf" || name == "sc" || name == "lc" then none else Unicode.propertyChars? name
  (property.or (Unicode.categoryChars? name)).or (Unicode.scriptChars? name)

/-- The characters for which a property has a value. The properties with values are
the general category, the script, the scripts that use a character, the age, and the
classes that divide texts. -/
def valuedChars? (property value : List Char) : Option CharSet :=
  let value := reducedSpelling value
  match reducedSpelling property with
  | "gc" | "generalcategory" => Unicode.categoryChars? value
  | "sc" | "script" => Unicode.scriptChars? value
  | "scx" | "scriptextensions" => Unicode.scriptExtensionChars? value
  | "age" => Unicode.ageChars? value
  | "gcb" | "graphemeclusterbreak" => Unicode.classChars? Unicode.graphemeClasses value
  | "wb" | "wordbreak" => Unicode.classChars? Unicode.wordClasses value
  | "sb" | "sentencebreak" => Unicode.classChars? Unicode.sentenceClasses value
  | _ => none

/-- Splits a text at the first place where a separator occurs. -/
def splitAtFirst? (separator : List Char) : List Char → Option (List Char × List Char)
  | [] => none
  | c :: rest =>
    if separator.isPrefixOf (c :: rest) then some ([], (c :: rest).drop separator.length)
    else (splitAtFirst? separator rest).map fun (before, after) => (c :: before, after)

/-- The characters that the text between the braces of a property asks for. -/
def queriedChars? (query : List Char) : Option CharSet :=
  match splitAtFirst? ['!', '='] query with
  | some (property, value) => valuedChars? property value
  | none =>
    match splitAtFirst? [':'] query with
    | some (property, value) => valuedChars? property value
    | none =>
      match splitAtFirst? ['='] query with
      | some (property, value) => valuedChars? property value
      | none => namedChars? query

/-- Reads the name of a property, one letter or a text in braces. -/
def readProperty? (flags : Flags) (negated : Bool) (text : List Char) :
    Option (Atom × List Char) :=
  match flags.skip text with
  | [] => none
  | '\x7b' :: rest =>
    match readBraced? flags (rest.length + 1) rest with
    | none => none
    | some (query, rest) => (queriedChars? query).map fun set => (.property set negated, rest)
  | '\\' :: _ => none
  | c :: rest => (namedChars? [c]).map fun set => (.property set negated, flags.skip rest)

/-- The characters that can stand in the name of a condition on words. -/
def isEdgeNameChar (c : Char) : Bool := c.isAlpha || c == '-'

/-- Reads the name of a condition on words. The fuel bounds its length. -/
def readEdgeName (flags : Flags) : Nat → List Char → List Char × List Char
  | 0, text => ([], text)
  | fuel + 1, text =>
    match text with
    | c :: rest =>
      if isEdgeNameChar c then
        let (name, rest) := readEdgeName flags fuel (flags.skip rest)
        (c :: name, rest)
      else ([], text)
    | [] => ([], [])

/-- Reads what follows the letter of a word boundary: a name in braces makes it a
special one, and braces around anything else count repetitions. -/
def readEdge? (flags : Flags) (text : List Char) : Option (Atom × List Char) :=
  let boundary (edge : WordEdge) : Atom := .condition (.word edge flags.unicode)
  match text with
  | '\x7b' :: rest =>
    match flags.skip rest with
    | [] => none
    | c :: inner =>
      if isEdgeNameChar c then
        match readEdgeName flags (inner.length + 2) (c :: inner) with
        | (name, '\x7d' :: rest) =>
          match String.ofList name with
          | "start" => some (boundary .start, rest)
          | "end" => some (boundary .stop, rest)
          | "start-half" => some (boundary .startHalf, rest)
          | "end-half" => some (boundary .stopHalf, rest)
          | _ => none
        | _ => none
      else some (boundary .boundary, text)
  | _ => some (boundary .boundary, text)

/-- Reads an escape, the backslash before it being read already. Characters of
ASCII that are neither letters nor digits stand for themselves. -/
def readEscape? (flags : Flags) : List Char → Option (Atom × List Char)
  | [] => none
  | c :: rest =>
    match c with
    | 'x' => readHex? flags 2 rest
    | 'u' => readHex? flags 4 rest
    | 'U' => readHex? flags 8 rest
    | 'p' => readProperty? flags false rest
    | 'P' => readProperty? flags true rest
    | 'a' => some (.literal '\x07' false, rest)
    | 'f' => some (.literal '\x0C' false, rest)
    | 't' => some (.literal '\t' false, rest)
    | 'n' => some (.literal '\n' false, rest)
    | 'r' => some (.literal '\r' false, rest)
    | 'v' => some (.literal '\x0B' false, rest)
    | 'A' => some (.condition .textStart, rest)
    | 'z' => some (.condition .textEnd, rest)
    | 'b' => readEdge? flags rest
    | 'B' => some (.condition (.word .inside flags.unicode), rest)
    | '<' => some (.condition (.word .start flags.unicode), rest)
    | '>' => some (.condition (.word .stop flags.unicode), rest)
    | _ =>
      match shorthand? c with
      | some atom => some (atom, rest)
      | none => if c.toNat < 128 && !c.isAlphanum then some (.literal c false, rest) else none

end ScopeQuery.Regex
