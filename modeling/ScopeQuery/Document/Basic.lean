import ScopeQuery.Number.Numeral
import ScopeQuery.Value.Basic

/-!
# Data documents

What is left of a JSON or YAML text once its notation is read: scalars, lists
and fields in the order they were written, repeated keys included. Later stages
ask a document for the shape they need and fail on any other.
-/

namespace ScopeQuery

/-- A data document. -/
inductive Document where
  /-- The null scalar. -/
  | null
  /-- A truth value. -/
  | bool (b : Bool)
  /-- A number. -/
  | number (n : Numeral)
  /-- A text. -/
  | text (s : String)
  /-- Documents in order. -/
  | list (items : List Document)
  /-- Documents under keys, in written order. -/
  | fields (entries : List (Document × Document))

namespace Document

/-- The text of a text document. -/
def text? : Document → Option String
  | .text s => some s
  | _ => none

/-- The truth value of a bool document. -/
def bool? : Document → Option Bool
  | .bool b => some b
  | _ => none

/-- The whole number of a document, if it is not negative and fits 64 bits. -/
def natural? : Document → Option Nat
  | .number (.natural n) => some n
  | _ => none

mutual

/-- The value a document stands for. Of a repeated key the last entry counts,
and only text keys do. -/
def value : Document → Value
  | .null => .null
  | .bool b => .bool b
  | .number n => .number n.toNumber
  | .text s => .string s
  | .list items => .array (values items)
  | .fields entries => .ofFields (fieldValues entries)

/-- The values of several documents. -/
def values : List Document → List Value
  | [] => []
  | d :: rest => value d :: values rest

/-- The values of several entries under their text keys. -/
def fieldValues : List (Document × Document) → List (String × Value)
  | [] => []
  | (.text key, d) :: rest => (key, value d) :: fieldValues rest
  | (_, _) :: rest => fieldValues rest

end

end Document

end ScopeQuery
