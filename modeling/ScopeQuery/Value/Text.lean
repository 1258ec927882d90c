import ScopeQuery.Value.Basic
import ScopeQuery.Number.Layout
import ScopeQuery.Text.Blank
import ScopeQuery.Text.Quoted

/-!
# Value texts

The three written forms of a value: the text shown to people, which error
messages use; the SQL literal, which shows a bound value in place; and the data
document, which is also how the other two write an object.
-/

namespace ScopeQuery.Value

/-- One hexadecimal digit in lower case. -/
def hexDigit (n : Nat) : Char := Nat.digitChar (n % 16)

/-- A character inside a document string. Quote, backslash and the controls
below the blank are escaped, the controls by letter where one exists. -/
def escapedChar (c : Char) : List Char :=
  match c.toNat with
  | 0x22 => ['\\', '"']
  | 0x5C => ['\\', '\\']
  | 0x08 => ['\\', 'b']
  | 0x09 => ['\\', 't']
  | 0x0A => ['\\', 'n']
  | 0x0C => ['\\', 'f']
  | 0x0D => ['\\', 'r']
  | n =>
    if n < 0x20 then ['\\', 'u', '0', '0', hexDigit (n / 16), hexDigit n] else [c]

/-- A text as a document string. -/
def documentString (text : String) : String :=
  String.ofList ('"' :: text.toList.flatMap escapedChar ++ ['"'])

mutual

/-- The value as a data document, without blanks. -/
def document : Value → String
  | .null => "null"
  | .bool b => if b then "true" else "false"
  | .number x => x.documentText
  | .string s => documentString s
  | .array items => "[" ++ Text.joined "," (documents items) ++ "]"
  | .object fields => "\x7b" ++ Text.joined "," (documentFields fields) ++ "\x7d"

/-- The documents of several values. -/
def documents : List Value → List String
  | [] => []
  | v :: rest => document v :: documents rest

/-- The document forms of several fields, each a key and a value. -/
def documentFields : List (String × Value) → List String
  | [] => []
  | (key, v) :: rest => (documentString key ++ ":" ++ document v) :: documentFields rest

end

mutual

/-- The text shown to people. -/
def text : Value → String
  | .null => "null"
  | .bool b => if b then "true" else "false"
  | .number x => x.text
  | .string s => s
  | .array items => "[" ++ Text.joined ", " (texts items) ++ "]"
  | .object fields => document (.object fields)

/-- The texts of several values. -/
def texts : List Value → List String
  | [] => []
  | v :: rest => text v :: texts rest

end

mutual

/-- The value as an SQL literal, for reading only and never for execution. -/
def literal : Value → String
  | .null => "NULL"
  | .bool b => if b then "1" else "0"
  | .number x => x.text
  | .string s => Text.quoted '\'' s
  | .array items => "(" ++ Text.joined ", " (literals items) ++ ")"
  | .object fields => Text.quoted '\'' (document (.object fields))

/-- The literals of several values. -/
def literals : List Value → List String
  | [] => []
  | v :: rest => literal v :: literals rest

end

end ScopeQuery.Value
