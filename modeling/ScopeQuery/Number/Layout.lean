import ScopeQuery.Number.Shortest

/-!
# Number texts

The two written forms of a number. The plain form never has an exponent and a
point only before a fraction; the document form always has a fraction or an
exponent, and changes to scientific notation outside a range of magnitudes.
-/

namespace ScopeQuery

/-- The decimal digits of a natural number. -/
def digitText (n : Nat) : List Char := Nat.toDigits 10 n

/-- A decimal in positional notation, without a point when it is whole. -/
def Decimal.positional (decimal : Decimal) : List Char :=
  let digits := digitText decimal.digits
  if 0 ≤ decimal.exponent then digits ++ List.replicate decimal.exponent.toNat '0'
  else
    let places := (-decimal.exponent).toNat
    if places < digits.length then
      digits.take (digits.length - places) ++ '.' :: digits.drop (digits.length - places)
    else '0' :: '.' :: List.replicate (places - digits.length) '0' ++ digits

/-- How many digits stand before the point; not positive for small values. -/
def Decimal.pointPosition (decimal : Decimal) : Int :=
  (digitText decimal.digits).length + decimal.exponent

/-- A decimal in scientific notation with a signed exponent. -/
def Decimal.scientific (decimal : Decimal) : List Char :=
  let power := decimal.pointPosition - 1
  let sign := if power < 0 then '-' else '+'
  let mantissa := match digitText decimal.digits with
    | [] => []
    | [first] => [first]
    | first :: rest => first :: '.' :: rest
  mantissa ++ 'e' :: sign :: digitText power.natAbs

namespace Number

/-- A text with a minus in front of it for a negative value. -/
def withSign (negative : Bool) (text : List Char) : String :=
  String.ofList (if negative then '-' :: text else text)

/-- The plain form: shortest digits, never an exponent, a tie upwards. -/
def plain : Number → String
  | .nan => "NaN"
  | .infinite negative => withSign negative ['i', 'n', 'f']
  | .finite negative units =>
    withSign negative (if units = 0 then ['0'] else (shortest .up units).positional)

/-- The text shown to people: the plain form, with both zeros as `0`. -/
def text (x : Number) : String := if x.isZero then "0" else x.plain

/-- The magnitudes a data document writes in positional notation: those whose
point stands after at most 16 digits and at most 4 zeros behind the point. -/
def positionalRange (pointPosition : Int) : Bool := -5 < pointPosition && pointPosition ≤ 16

/-- The form in a data document: shortest digits, a tie to the even digit,
always with a fraction or an exponent. Values that are not finite are null. -/
def documentText : Number → String
  | .nan => "null"
  | .infinite _ => "null"
  | .finite negative units =>
    if units = 0 then withSign negative ['0', '.', '0']
    else
      let decimal := shortest .even units
      if positionalRange decimal.pointPosition then
        let body := decimal.positional
        withSign negative (if 0 ≤ decimal.exponent then body ++ ['.', '0'] else body)
      else withSign negative decimal.scientific

end Number

end ScopeQuery
