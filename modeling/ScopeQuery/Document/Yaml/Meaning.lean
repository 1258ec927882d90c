import ScopeQuery.Document.Basic
import ScopeQuery.Document.Yaml.Scalar

/-!
# What scalars stand for

A YAML scalar without quotes and tag stands for null, a truth value or a number when it
is spelled like one, and for its text otherwise. A tag of the notation's own asks for one
of these and refuses other spellings. Whole numbers that need more than 64 bits and fit
128 have no document.
-/

namespace ScopeQuery.Yaml

/-- Whether a scalar is spelled as null. -/
def isNullWord (text : String) : Bool := ["~", "null", "Null", "NULL"].contains text

/-- The truth value that a scalar is spelled as. -/
def truth? (text : String) : Option Bool :=
  if ["true", "True", "TRUE"].contains text then some true
  else if ["false", "False", "FALSE"].contains text then some false
  else none

/-- The value of digits in a base. -/
def baseValue? (base : Nat) (digits : List Char) : Option Nat :=
  if digits.isEmpty then none
  else digits.foldl (fun value c => value.bind fun value =>
    match hexValue? c with
    | some digit => if digit < base then some (value * base + digit) else none
    | none => none) (some 0)

/-- The whole number of a text without sign: decimal, or in another base with its
mark. A leading zero makes no decimal number. -/
def magnitude? : List Char → Option Nat
  | '0' :: 'x' :: digits => baseValue? 16 digits
  | '0' :: 'o' :: digits => baseValue? 8 digits
  | '0' :: 'b' :: digits => baseValue? 2 digits
  | '0' :: _ :: _ => none
  | digits => baseValue? 10 digits

/-- The whole number that a scalar is spelled as: whether it is negative, and its
magnitude. -/
def whole? : List Char → Option (Bool × Nat)
  | '-' :: rest => (magnitude? rest).map fun n => (true, n)
  | '+' :: rest => (magnitude? rest).map fun n => (false, n)
  | text => (magnitude? text).map fun n => (false, n)

/-- Whether a whole number fits a number of bits, one of them for the sign of a negative
one. -/
def fitsBits (bits : Nat) (negative : Bool) (n : Nat) : Bool :=
  if negative then n ≤ Number.twoPower (bits - 1) else n < Number.twoPower bits

/-- The whole number of 64 bits that a scalar is spelled as. -/
def word? (text : List Char) : Option Numeral :=
  match whole? text with
  | some (negative, n) =>
    if fitsBits 64 negative n then some (if negative then .negative n else .natural n) else none
  | none => none

/-- Whether a scalar is spelled as a whole number that fits 128 bits and not 64. -/
def isLongWhole (text : List Char) : Bool :=
  match whole? text with
  | some (negative, n) => fitsBits 128 negative n && !fitsBits 64 negative n
  | none => false

/-- Whether a text is digits after a leading zero, which make no number. -/
def isZeroLed (text : List Char) : Bool :=
  let digits := match text with
    | '-' :: rest => rest
    | '+' :: rest => rest
    | text => text
  match digits with
  | '0' :: c :: rest => (c :: rest).all fun d => '0' ≤ d && d ≤ '9'
  | _ => false

/-- The real number that a scalar is spelled as. -/
def real? (text : List Char) : Option Number :=
  match String.ofList text with
  | ".inf" | ".Inf" | ".INF" | "+.inf" | "+.Inf" | "+.INF" => some (.infinite false)
  | "-.inf" | "-.Inf" | "-.INF" => some (.infinite true)
  | ".nan" | ".NaN" | ".NAN" => some .nan
  | _ =>
    match Number.ofText? text with
    | some (.finite negative units) => some (.finite negative units)
    | _ => none

/-- The document of a scalar without quotes and tag. -/
def plainDocument? (text : String) : Option Document :=
  let characters := text.toList
  if text == "" || isNullWord text then some .null
  else if isLongWhole characters then none
  else
    match truth? text, word? characters, real? characters with
    | some b, _, _ => some (.bool b)
    | none, some n, _ => some (.number n)
    | none, none, some x =>
      if isZeroLed characters then some (.text text) else some (.number (.real x))
    | none, none, none => some (.text text)

/-- Whether a tag is one of the text's own, which no document has. -/
def isOwnTag (tag : Option String) : Bool := tag.any fun tag => tag.toList.head? == some '!'

/-- The document of a scalar. A tag that is not known leaves it a text. -/
def scalarDocument? (tag : Option String) (style : ScalarStyle) (text : String) :
    Option Document :=
  if isOwnTag tag then none
  else
    match tag with
    | none => if style == .plain then plainDocument? text else some (.text text)
    | some "tag:yaml.org,2002:bool" => (truth? text).map .bool
    | some "tag:yaml.org,2002:int" => (word? text.toList).map .number
    | some "tag:yaml.org,2002:float" => (real? text.toList).map fun x => .number (.real x)
    | some "tag:yaml.org,2002:null" => if isNullWord text then some .null else none
    | some _ => some (.text text)

end ScopeQuery.Yaml
