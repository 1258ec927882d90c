import ScopeQuery.Document.Yaml.Place

/-!
# Tags and directives

What a YAML node says about its kind. A tag is written in full between angle brackets, or
as a handle between exclamation marks and a suffix; directives in front of a document
say what the handles stand for, and which version of the notation is meant.
-/

namespace ScopeQuery.Yaml

/-- Whether a character may stand in a tag; a tag in full may hold more. -/
def isTagChar (full : Bool) (c : Char) : Bool :=
  isNameChar c ||
    [';', '/', '?', ':', '@', '&', '=', '+', '$', '.', '%', '!', '~', '*', '\'', '(', ')'].contains c ||
    (full && [',', '[', ']'].contains c)

/-- An escaped octet: a percent sign and two hexadecimal digits. -/
def octet? : List Placed → Option (Nat × List Placed)
  | ⟨'%', _, _⟩ :: rest => hexNumber? 2 0 rest
  | _ => none

/-- Further octets of a character, each with its six bits, put after the bits so far. -/
def octets? : Nat → Nat → List Placed → Option (Nat × List Placed)
  | 0, bits, rest => some (bits, rest)
  | n + 1, bits, text =>
    match octet? text with
    | none => none
    | some (octet, rest) =>
      if octet / 0x40 == 2 then octets? n (bits * 0x40 + octet % 0x40) rest else none

/-- A character written as escaped octets. -/
def escapedChar? (text : List Placed) : Option (Char × List Placed) :=
  match octet? text with
  | none => none
  | some (octet, rest) =>
    let found :=
      if octet < 0x80 then some (octet, rest)
      else if octet / 0x20 == 6 then octets? 1 (octet % 0x20) rest
      else if octet / 0x10 == 14 then octets? 2 (octet % 0x10) rest
      else if octet / 8 == 30 then octets? 3 (octet % 8) rest
      else none
    found.map fun (value, rest) => (Char.ofNat value, rest)

/-- The characters of a tag at the front of a text and the text after them. The fuel bounds
the characters. -/
def tagText? (full : Bool) : Nat → List Placed → Option (List Char × List Placed)
  | 0, _ => none
  | _ + 1, [] => some ([], [])
  | fuel + 1, here :: rest =>
    if !isTagChar full here.char then some ([], here :: rest)
    else
      match if here.char == '%' then escapedChar? (here :: rest) else some (here.char, rest) with
      | none => none
      | some (c, rest) => (tagText? full fuel rest).map fun (more, rest) => (c :: more, rest)

/-- The characters of a tag, of which there must be some. -/
def someTagText? (full : Bool) (text : List Placed) : Option (List Char × List Placed) :=
  match tagText? full (text.length + 1) text with
  | some ([], _) => none
  | found => found

/-- A tag: a handle, or none where the tag is written in full, and the suffix after it. -/
structure Tag where
  /-- The handle, exclamation marks included. -/
  handle : Option String
  /-- The suffix, or the whole tag. -/
  suffix : String
deriving DecidableEq

/-- The tag after an exclamation mark and the text after it. A name between two marks is
a handle; any other suffix has the mark alone as its handle, and the mark by itself is
a tag in full. -/
def tag? (text : List Placed) : Option (Tag × List Placed) :=
  match text with
  | ⟨'<', _, _⟩ :: rest =>
    match someTagText? true rest with
    | some (tag, ⟨'>', _, _⟩ :: rest) => some (⟨none, String.ofList tag⟩, rest)
    | _ => none
  | text =>
    let (name, rest) := spanName text
    match rest with
    | ⟨'!', _, _⟩ :: rest =>
      (someTagText? false rest).map fun (suffix, rest) =>
        (⟨some (String.ofList ('!' :: name ++ ['!'])), String.ofList suffix⟩, rest)
    | rest =>
      match tagText? false (rest.length + 1) rest with
      | none => none
      | some (more, rest) =>
        match name ++ more with
        | [] => some (⟨none, "!"⟩, rest)
        | suffix => some (⟨some "!", String.ofList suffix⟩, rest)

/-- What stands in front of a document. -/
inductive Directive where
  /-- The version of the notation. -/
  | version (major minor : Nat)
  /-- What a handle stands for. -/
  | handle (handle meaning : String)
deriving DecidableEq

/-- A part of a version, at most nine digits, and the text after it. -/
def versionNumber? (text : List Placed) : Option (Nat × List Placed) :=
  let digits := text.takeWhile fun here => here.char.isDigit
  if digits.isEmpty || 9 < digits.length then none
  else
    some (digits.foldl (fun n here => 10 * n + (here.char.toNat - '0'.toNat)) 0,
      text.drop digits.length)

/-- The version after the name of its directive and the text after it. -/
def versionDirective? (text : List Placed) : Option (Directive × List Placed) :=
  match versionNumber? (skipBlanks text) with
  | some (major, ⟨'.', _, _⟩ :: rest) =>
    (versionNumber? rest).map fun (minor, rest) => (.version major minor, rest)
  | _ => none

/-- A handle and its meaning after the name of the directive and the text after them. -/
def handleDirective? (text : List Placed) : Option (Directive × List Placed) :=
  match skipBlanks text with
  | ⟨'!', _, _⟩ :: rest =>
    let (name, rest) := spanName rest
    let named := match name, rest with
      | [], ⟨'!', _, _⟩ :: rest => some ("!!", rest)
      | [], rest => some ("!", rest)
      | name, ⟨'!', _, _⟩ :: rest => some (String.ofList ('!' :: name ++ ['!']), rest)
      | _, _ => none
    match named with
    | none => none
    | some (handle, rest) =>
      if rest.head?.any (isBlank ·.char) then
        match someTagText? true (skipBlanks rest) with
        | none => none
        | some (meaning, rest) =>
          if atGap rest then some (.handle handle (String.ofList meaning), rest) else none
      else none
  | _ => none

/-- The directive after a percent sign and the text after its line. Only the two known ones
may stand in a text. -/
def directive? (text : List Placed) : Option (Directive × List Placed) :=
  let (name, rest) := spanName text
  let found :=
    if !atGap rest then none
    else
      match String.ofList name with
      | "YAML" => versionDirective? rest
      | "TAG" => handleDirective? rest
      | _ => none
  match found with
  | none => none
  | some (directive, rest) => (pastLine? rest).map fun rest => (directive, rest)

end ScopeQuery.Yaml
