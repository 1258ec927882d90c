import ScopeQuery.Error.Query
import ScopeQuery.Number.Numeral
import ScopeQuery.Value.Basic

/-!
# Value texts of conditions

Reading the value of a condition. A text in braces is a placeholder for a value
of the context, with or without quotes around it; a text in quotes is a string;
the three keywords count in any letter case; a text in square brackets is an
array whose elements are read the same way; a number is a number; and every
other text is a string as it stands.
-/

namespace ScopeQuery

/-- The values that placeholders stand for, by name. -/
abbrev ParseContext := List (String × Value)

/-- A text without its last character, if that is the given one. -/
def stripLast? (close : Char) : List Char → Option (List Char)
  | [] => none
  | [c] => if c = close then some [] else none
  | c :: next :: rest =>
    match stripLast? close (next :: rest) with
    | some inner => some (c :: inner)
    | none => none

/-- A text without its first and last character, if those are the given ones. -/
def stripEnds? (opening close : Char) : List Char → Option (List Char)
  | [] => none
  | c :: rest => if c = opening then stripLast? close rest else none

/-- The name of a placeholder. -/
def placeholder? (text : List Char) : Option (List Char) := stripEnds? '\x7b' '\x7d' text

/-- The text between two equal quotes. -/
def unquoted? (text : List Char) : Option (List Char) :=
  match stripEnds? '"' '"' text with
  | some inner => some inner
  | none => stripEnds? '\'' '\'' text

/-- The value of a keyword, in any letter case. -/
def keyword? (text : List Char) : Option Value :=
  match String.ofList (Text.lower text) with
  | "true" => some (.bool true)
  | "false" => some (.bool false)
  | "null" => some .null
  | _ => none

/-- The quote that is open after a character. -/
def quoteAfter (quote : Option Char) (c : Char) : Option Char :=
  match quote with
  | none => if c = '"' ∨ c = '\'' then some c else none
  | some q => if c = q then none else some q

/-- The texts between the commas that stand outside quotes. -/
def elements (quote : Option Char) : List Char → List (List Char)
  | [] => [[]]
  | c :: rest =>
    if c = ',' ∧ quote = none then [] :: elements none rest
    else
      match elements (quoteAfter quote c) rest with
      | [] => [[c]]
      | element :: following => (c :: element) :: following

/-- The lengths of some texts and one more for each of them. -/
def textsSize : List (List Char) → Nat
  | [] => 0
  | text :: rest => text.length + 1 + textsSize rest

/-- Splitting at commas keeps every other character. -/
theorem textsSize_elements (quote : Option Char) (text : List Char) :
    textsSize (elements quote text) = text.length + 1 := by
  induction text generalizing quote with
  | nil => simp [elements, textsSize]
  | cons c rest ih =>
    rw [elements]
    split
    · rw [textsSize, ih, List.length_cons, List.length_nil]
      omega
    · have := ih (quoteAfter quote c)
      split
      · rename_i hnil
        simp [hnil, textsSize] at this
      · rename_i element following hcons
        rw [hcons, textsSize] at this
        rw [textsSize, List.length_cons, List.length_cons]
        omega

/-- Stripping the last character takes one character away. -/
theorem stripLast?_append {close : Char} {text inner : List Char}
    (h : stripLast? close text = some inner) : text = inner ++ [close] := by
  induction text generalizing inner with
  | nil => simp [stripLast?] at h
  | cons c rest ih =>
    cases rest with
    | nil => grind [stripLast?]
    | cons next rest => grind [stripLast?]

/-- Stripping both ends takes two characters away. -/
theorem stripEnds?_append {opening close : Char} {text inner : List Char}
    (h : stripEnds? opening close text = some inner) :
    text = opening :: inner ++ [close] := by
  cases text with
  | nil => simp [stripEnds?] at h
  | cons c rest =>
    rw [stripEnds?] at h
    split at h
    · rename_i hc
      rw [stripLast?_append h, hc, List.cons_append]
    · simp at h

/-- Trimming adds nothing. -/
theorem trim_length (text : List Char) : (Text.trim text).length ≤ text.length := by
  rw [Text.trim, List.length_reverse]
  refine Nat.le_trans (List.dropWhile_sublist _).length_le ?_
  rw [List.length_reverse]
  exact (List.dropWhile_sublist _).length_le

/-- The value of a placeholder; the context has to know it. -/
def resolvePlaceholder (context : ParseContext) (name : List Char) : Except QueryError Value :=
  match context.lookup (String.ofList name) with
  | some value => .ok value
  | none => .error (.unreadable (String.ofList name) .unresolvedPlaceholder)

/-- The value of a text that is neither placeholder, quoted, keyword nor array. -/
def plainValue (text : List Char) : Value :=
  match Number.ofText? text with
  | some x => .number x
  | none => .string (String.ofList text)

mutual

/-- The value a text stands for. -/
def parseValue (context : ParseContext) (text : List Char) : Except QueryError Value :=
  match placeholder? (Text.trim text) with
  | some name => resolvePlaceholder context name
  | none =>
    match unquoted? (Text.trim text) with
    | some inner =>
      match placeholder? inner with
      | some name => resolvePlaceholder context name
      | none => .ok (.string (String.ofList inner))
    | none =>
      match keyword? (Text.trim text) with
      | some value => .ok value
      | none =>
        match _inner : stripEnds? '[' ']' (Text.trim text) with
        | some inner =>
          match parseElements context (elements none inner) with
          | .ok items => .ok (.array items)
          | .error error => .error error
        | none => .ok (plainValue (Text.trim text))
termination_by text.length
decreasing_by
  have := trim_length text
  have := congrArg List.length (stripEnds?_append _inner)
  have := textsSize_elements none inner
  simp only [List.cons_append, List.length_cons, List.length_append, List.length_nil] at *
  omega

/-- The values of the elements of an array; blank elements are left out. -/
def parseElements (context : ParseContext) (texts : List (List Char)) :
    Except QueryError (List Value) :=
  match texts with
  | [] => .ok []
  | text :: rest =>
    if (Text.trim text).isEmpty then parseElements context rest
    else
      match parseValue context (Text.trim text) with
      | .error error => .error error
      | .ok value =>
        match parseElements context rest with
        | .ok values => .ok (value :: values)
        | .error error => .error error
termination_by textsSize texts
decreasing_by
  all_goals
    have := trim_length text
    simp only [textsSize]
    omega

end

end ScopeQuery
