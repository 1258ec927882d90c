import ScopeQuery.Storage.Codec
import ScopeQuery.Value.Text

/-!
# Encoders

Ready-made encodings of column values. Each gives the stored form of a value that
is not null, or a message why there is none.
-/

namespace ScopeQuery

/-- An encoding of column values. -/
abbrev Encoder := Value → Except String Value

namespace Encoder

/-- Truth values as the letters Y and N. -/
def yesNo : Encoder
  | .bool b => .ok (.string (if b then "Y" else "N"))
  | value => .error ("expected bool, got " ++ value.typeName)

/-- Texts with their ASCII letters in lower case; other values as they are. -/
def lower : Encoder
  | .string s => .ok (.string (String.ofList (Text.lower s.toList)))
  | value => .ok value

/-- Amounts in hundredths. -/
def cents : Encoder
  | .number x => .ok (.number (x.mul (Number.ofNat 100)))
  | value => .error ("not a number: " ++ value.text)

/-- Every value as its text. -/
def asText : Encoder := fun value => .ok (.string value.text)

/-- Every value as null. -/
def asNull : Encoder := fun _ => .ok .null

/-- Every value as the only item of a list. -/
def wrapped : Encoder := fun value => .ok (.array [value])

/-- No value. -/
def reject : Encoder := fun _ => .error "rejected"

/-- The encoder with a name. -/
def ofName? : String → Option Encoder
  | "yes_no" => some yesNo
  | "lower" => some lower
  | "cents" => some cents
  | "to_text" => some asText
  | "to_null" => some asNull
  | "wrap" => some wrapped
  | "reject" => some reject
  | _ => none

end Encoder

end ScopeQuery
