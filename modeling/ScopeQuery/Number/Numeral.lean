import ScopeQuery.Number.Basic
import ScopeQuery.Text.Blank

/-!
# Decimal numerals

Reading the text of a number. `Number.ofText?` accepts an optional sign, digits
with an optional fraction and exponent, and the words for infinity and NaN in
any letter case, and gives the nearest binary64 value. `Numeral` is the number
of a data document, where a whole number that fits 64 bits stays whole and all
other numerals are scaled in two rounded steps.
-/

namespace ScopeQuery

/-- The value of a digit character. -/
def digitValue? (c : Char) : Option Nat :=
  if '0' ≤ c ∧ c ≤ '9' then some (c.toNat - '0'.toNat) else none

/-- The digits at the front of a text, as values, and what follows them. -/
def spanDigits : List Char → List Nat × List Char
  | [] => ([], [])
  | c :: rest =>
    match digitValue? c with
    | none => ([], c :: rest)
    | some d => let (ds, tail) := spanDigits rest; (d :: ds, tail)

/-- The natural number a list of decimal digits stands for. -/
def digitsValue (digits : List Nat) : Nat := digits.foldl (fun n d => 10 * n + d) 0

/-- A sign in front of a text: whether it is a minus, and the text after it. -/
def spanSign : List Char → Bool × List Char
  | '-' :: rest => (true, rest)
  | '+' :: rest => (false, rest)
  | text => (false, text)

/-- The exponent part of a numeral, which must reach the end of the text. -/
def exponentPart? : List Char → Option Int
  | [] => some 0
  | c :: rest =>
    if c = 'e' ∨ c = 'E' then
      let (negative, rest) := spanSign rest
      match spanDigits rest with
      | ([], _) => none
      | (digits, []) =>
        some (if negative then -(digitsValue digits : Int) else digitsValue digits)
      | (_, _ :: _) => none
    else none

/-- An unsigned numeral: its digits as one number and the power of ten they are
scaled by. -/
def unsignedDecimal? (text : List Char) : Option (Nat × Int) :=
  let (whole, rest) := spanDigits text
  let (fraction, rest) :=
    match rest with
    | '.' :: rest => spanDigits rest
    | rest => ([], rest)
  if whole.isEmpty && fraction.isEmpty then none
  else do
    let exponent ← exponentPart? rest
    return (digitsValue (whole ++ fraction), exponent - fraction.length)

namespace Number

/-- The value a text names: a decimal numeral, or a word for infinity or NaN. -/
def ofText? (text : List Char) : Option Number :=
  let (negative, body) := spanSign text
  match unsignedDecimal? body with
  | some (digits, exponent) => some (ofDecimal negative digits exponent)
  | none =>
    match String.ofList (Text.lower body) with
    | "inf" | "infinity" => some (.infinite negative)
    | "nan" => some .nan
    | _ => none

end Number

/-- A number of a data document. -/
inductive Numeral where
  /-- A whole number below 2 to the power 64. -/
  | natural (n : Nat)
  /-- Minus a whole number of at most 2 to the power 63. -/
  | negative (n : Nat)
  /-- Any other number. -/
  | real (x : Number)

namespace Numeral

/-- The first whole number that does not fit 64 bits. -/
def wordLimit : Nat := Number.twoPower 64

/-- The binary64 value of the number. -/
def toNumber : Numeral → Number
  | .natural n => Number.ofNat n
  | .negative n => (Number.ofNat n).negated
  | .real x => x

/-- The count that a power of ten below the overflow limit has. -/
def powerUnits (exponent : Nat) : Nat :=
  Number.roundUnits (Number.tenPower exponent * Number.unitsPerOne) 1

/-- A count divided the given number of times by 10 to the power 308. -/
def dividedDown (units : Nat) : Nat → Nat
  | 0 => units
  | times + 1 =>
    if units = 0 then 0 else dividedDown (Number.divUnits units (powerUnits 308)) times

/-- A count scaled by a power of ten, with one rounded product or quotient by a
power of at most 308 as the last step. Too large a result has no value. -/
def scaled? (negative : Bool) (units : Nat) (exponent : Int) : Option Number :=
  if units = 0 then some (.finite negative 0)
  else if 308 < exponent then none
  else if 0 ≤ exponent then
    match Number.ofUnits negative (units * powerUnits exponent.toNat) Number.unitsPerOne with
    | .finite negative units => some (.finite negative units)
    | _ => none
  else
    let places := (-exponent).toNat
    let times := (places - 1) / 308
    some (.finite negative
      (Number.divUnits (dividedDown units times) (powerUnits (places - 308 * times))))

/-- The leading digits that fit 64 bits, and how many whole digits follow. -/
def wholePart (digits : List Nat) : Nat × Nat :=
  digits.foldl (fun (value, dropped) d =>
    if dropped = 0 ∧ 10 * value + d < wordLimit then (10 * value + d, 0)
    else (value, dropped + 1)) (0, 0)

/-- Fraction digits appended as long as the value fits 64 bits, and how many
were taken. -/
def appendFraction (value : Nat) : List Nat → Nat × Nat
  | [] => (value, 0)
  | d :: rest =>
    if 10 * value + d < wordLimit then
      let (value, taken) := appendFraction (10 * value + d) rest
      (value, taken + 1)
    else (value, 0)

/-- The number written with these digits. A whole number that fits 64 bits is
kept; another one has the digits that fit rounded and then scaled. -/
def ofParts? (negative : Bool) (whole fraction : List Nat) (exponent : Option Int) :
    Option Numeral :=
  let n := digitsValue whole
  if fraction.isEmpty ∧ exponent.isNone ∧ n < wordLimit then
    if !negative then some (.natural n)
    else if n = 0 then some (.real (.finite true 0))
    else if n ≤ Number.twoPower 63 then some (.negative n)
    else some (.real (Number.ofNat n).negated)
  else
    let (value, dropped) := wholePart whole
    let (value, taken) := appendFraction value fraction
    let units := Number.roundUnits (value * Number.unitsPerOne) 1
    (scaled? negative units (exponent.getD 0 + dropped - taken)).map .real

end Numeral

end ScopeQuery
