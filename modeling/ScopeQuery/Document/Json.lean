import ScopeQuery.Document.Basic

/-!
# JSON texts

Reading a JSON text as a data document. Strings may hold any character but bare
controls, and their escapes must name whole characters; a number must start
with its only leading zero or none; at most 127 lists and objects stand inside
one another; nothing but blanks may follow the document.
-/

namespace ScopeQuery.Json

/-- The text after the blanks, line ends and tabs at its front. -/
def skipBlanks (text : List Char) : List Char :=
  text.dropWhile fun c => c = ' ' ∨ c = '\t' ∨ c = '\n' ∨ c = '\r'

/-- The value of a hexadecimal digit. -/
def hexValue? (c : Char) : Option Nat :=
  if '0' ≤ c ∧ c ≤ '9' then some (c.toNat - '0'.toNat)
  else if 'a' ≤ c ∧ c ≤ 'f' then some (c.toNat - 'a'.toNat + 10)
  else if 'A' ≤ c ∧ c ≤ 'F' then some (c.toNat - 'A'.toNat + 10)
  else none

/-- A code unit of four hexadecimal digits and the text after it. -/
def codeUnit? : List Char → Option (Nat × List Char)
  | a :: b :: c :: d :: rest => do
    let a ← hexValue? a
    let b ← hexValue? b
    let c ← hexValue? c
    let d ← hexValue? d
    return (((a * 16 + b) * 16 + c) * 16 + d, rest)
  | _ => none

/-- The first code unit of a pair. -/
def isHighSurrogate (n : Nat) : Bool := 0xD800 ≤ n && n < 0xDC00

/-- The second code unit of a pair. -/
def isLowSurrogate (n : Nat) : Bool := 0xDC00 ≤ n && n < 0xE000

/-- The character of one code unit or of a pair, and the text after it. -/
def unicodeEscape? (text : List Char) : Option (Char × List Char) := do
  let (unit, rest) ← codeUnit? text
  if isLowSurrogate unit then none
  else if isHighSurrogate unit then
    match rest with
    | '\\' :: 'u' :: rest =>
      let (low, rest) ← codeUnit? rest
      if isLowSurrogate low then
        return (Char.ofNat (0x10000 + (unit - 0xD800) * 0x400 + (low - 0xDC00)), rest)
      else none
    | _ => none
  else return (Char.ofNat unit, rest)

/-- The character an escape names, and the text after it. -/
def escape? : List Char → Option (Char × List Char)
  | '"' :: rest => some ('"', rest)
  | '\\' :: rest => some ('\\', rest)
  | '/' :: rest => some ('/', rest)
  | 'b' :: rest => some ('\x08', rest)
  | 'f' :: rest => some ('\x0c', rest)
  | 'n' :: rest => some ('\n', rest)
  | 'r' :: rest => some ('\r', rest)
  | 't' :: rest => some ('\t', rest)
  | 'u' :: rest => unicodeEscape? rest
  | _ => none

/-- The characters of a string after its opening quote, and the text after its
closing one. The fuel bounds the characters read. -/
def stringBody? : Nat → List Char → Option (List Char × List Char)
  | 0, _ => none
  | _ + 1, [] => none
  | fuel + 1, c :: rest =>
    if c = '"' then some ([], rest)
    else if c = '\\' then do
      let (c, rest) ← escape? rest
      let (body, rest) ← stringBody? fuel rest
      return (c :: body, rest)
    else if c.toNat < 0x20 then none
    else do
      let (body, rest) ← stringBody? fuel rest
      return (c :: body, rest)

/-- A string after its opening quote, and the text after it. -/
def string? (text : List Char) : Option (String × List Char) := do
  let (body, rest) ← stringBody? (text.length + 1) text
  return (String.ofList body, rest)

/-- The fraction of a numeral, if there is a point, and the text after it. -/
def fractionPart? : List Char → Option (List Nat × List Char)
  | '.' :: rest =>
    match spanDigits rest with
    | ([], _) => none
    | (digits, rest) => some (digits, rest)
  | rest => some ([], rest)

/-- The exponent of a numeral, if there is one, and the text after it. -/
def exponentPart? : List Char → Option (Option Int × List Char)
  | c :: rest =>
    if c = 'e' ∨ c = 'E' then
      let (negative, rest) := spanSign rest
      match spanDigits rest with
      | ([], _) => none
      | (digits, rest) =>
        some (some (if negative then -(digitsValue digits : Int) else digitsValue digits), rest)
    else some (none, c :: rest)
  | [] => some (none, [])

/-- A number and the text after it. -/
def numeral? (text : List Char) : Option (Numeral × List Char) := do
  let (negative, rest) := match text with
    | '-' :: rest => (true, rest)
    | rest => (false, rest)
  let (whole, rest) := spanDigits rest
  match whole with
  | [] => none
  | 0 :: _ :: _ => none
  | whole =>
    let (fraction, rest) ← fractionPart? rest
    let (exponent, rest) ← exponentPart? rest
    let numeral ← Numeral.ofParts? negative whole fraction exponent
    return (numeral, rest)

mutual

/-- A document and the text after it. `depth` is how many more lists and
objects may stand inside one another; the fuel bounds the calls. -/
def document? : Nat → Nat → List Char → Option (Document × List Char)
  | 0, _, _ => none
  | fuel + 1, depth, text =>
    match skipBlanks text with
    | 'n' :: 'u' :: 'l' :: 'l' :: rest => some (.null, rest)
    | 't' :: 'r' :: 'u' :: 'e' :: rest => some (.bool true, rest)
    | 'f' :: 'a' :: 'l' :: 's' :: 'e' :: rest => some (.bool false, rest)
    | '"' :: rest => do
      let (s, rest) ← string? rest
      return (.text s, rest)
    | '[' :: rest =>
      match depth with
      | 0 => none
      | depth + 1 =>
        match skipBlanks rest with
        | ']' :: rest => some (.list [], rest)
        | rest => do
          let (items, rest) ← items? fuel depth rest
          return (.list items, rest)
    | '\x7b' :: rest =>
      match depth with
      | 0 => none
      | depth + 1 =>
        match skipBlanks rest with
        | '\x7d' :: rest => some (.fields [], rest)
        | rest => do
          let (entries, rest) ← entries? fuel depth rest
          return (.fields entries, rest)
    | rest => do
      let (n, rest) ← numeral? rest
      return (.number n, rest)

/-- The items of a list that is not empty, and the text after its bracket. -/
def items? : Nat → Nat → List Char → Option (List Document × List Char)
  | 0, _, _ => none
  | fuel + 1, depth, text => do
    let (item, rest) ← document? fuel depth text
    match skipBlanks rest with
    | ',' :: rest =>
      let (items, rest) ← items? fuel depth rest
      return (item :: items, rest)
    | ']' :: rest => return ([item], rest)
    | _ => none

/-- The entries of an object that is not empty, and the text after its brace. -/
def entries? : Nat → Nat → List Char → Option (List (Document × Document) × List Char)
  | 0, _, _ => none
  | fuel + 1, depth, text =>
    match skipBlanks text with
    | '"' :: rest => do
      let (key, rest) ← string? rest
      match skipBlanks rest with
      | ':' :: rest =>
        let (item, rest) ← document? fuel depth rest
        match skipBlanks rest with
        | ',' :: rest =>
          let (entries, rest) ← entries? fuel depth rest
          return ((.text key, item) :: entries, rest)
        | '\x7d' :: rest => return ([(.text key, item)], rest)
        | _ => none
      | _ => none
    | _ => none

end

/-- How many lists and objects may stand inside one another. -/
def depthLimit : Nat := 127

/-- The document a JSON text holds. -/
def read? (text : String) : Option Document := do
  let text := text.toList
  let (document, rest) ← document? (2 * text.length + 2) depthLimit text
  if (skipBlanks rest).isEmpty then some document else none

end ScopeQuery.Json
