import Mathlib.Data.List.Basic
import ScopeQuery.Number.Numeral

/-!
# Decimal numerals

The numerals of numbers, by their parts: a sign, digits with a point among them, and an
exponent. Reading a text gives a number exactly when the text is a numeral, or one of the
words for infinity and for the value that equals nothing, in any letter case and behind a
sign. The digits at the front of a text end where no digit follows, so each part of a numeral
is found where it was written.
-/

namespace ScopeQuery

/-! ### The parts of a numeral -/

/-- What stands in front of a number. -/
inductive NumeralSign where
  /-- Nothing. -/
  | absent
  /-- A plus. -/
  | plus
  /-- A minus. -/
  | minus

namespace NumeralSign

/-- The sign as text. -/
def text : NumeralSign → List Char
  | .absent => []
  | .plus => ['+']
  | .minus => ['-']

/-- Whether the sign is a minus. -/
def isMinus : NumeralSign → Bool
  | .minus => true
  | _ => false

end NumeralSign

/-- The character of a digit. -/
def digitChar (digit : Fin 10) : Char := Char.ofNat ('0'.toNat + digit)

/-- Digits as text. -/
def digitsText (digits : List (Fin 10)) : List Char := digits.map digitChar

/-- Digits without their bound. -/
def plainDigits (digits : List (Fin 10)) : List Nat := digits.map Fin.val

/-- A point and the digits behind it, or nothing. -/
def fractionText : Option (List (Fin 10)) → List Char
  | none => []
  | some digits => '.' :: digitsText digits

/-- The power of ten that digits are scaled by. -/
structure NumeralExponent where
  /-- Whether its letter is a capital one. -/
  capital : Bool
  /-- Its sign. -/
  sign : NumeralSign
  /-- Its digits. -/
  digits : List (Fin 10)
  /-- There is a digit. -/
  digits_ne : digits ≠ []

namespace NumeralExponent

/-- The letter in front of an exponent. -/
def letter (exponent : NumeralExponent) : Char := if exponent.capital then 'E' else 'e'

/-- The exponent as text. -/
def text (exponent : NumeralExponent) : List Char :=
  exponent.letter :: (exponent.sign.text ++ digitsText exponent.digits)

/-- The exponent as a number. -/
def value (exponent : NumeralExponent) : Int :=
  if exponent.sign.isMinus then -(digitsValue (plainDigits exponent.digits) : Int)
  else digitsValue (plainDigits exponent.digits)

end NumeralExponent

/-- An exponent that may be left out, as text. -/
def exponentText : Option NumeralExponent → List Char
  | none => []
  | some exponent => exponent.text

/-- An exponent that may be left out, as a number. -/
def exponentValue : Option NumeralExponent → Int
  | none => 0
  | some exponent => exponent.value

/-- Digits with a point among them or not, and an exponent or none. -/
structure UnsignedNumeral where
  /-- The digits in front of the point. -/
  whole : List (Fin 10)
  /-- The digits behind the point; none when there is no point. -/
  fraction : Option (List (Fin 10))
  /-- The exponent. -/
  exponent : Option NumeralExponent
  /-- There is a digit on one side of the point at least. -/
  digits_ne : whole ≠ [] ∨ fraction.getD [] ≠ []

namespace UnsignedNumeral

/-- The numeral as text. -/
def text (numeral : UnsignedNumeral) : List Char :=
  digitsText numeral.whole ++ (fractionText numeral.fraction ++ exponentText numeral.exponent)

/-- All digits as one number. -/
def digits (numeral : UnsignedNumeral) : Nat :=
  digitsValue (plainDigits numeral.whole ++ plainDigits (numeral.fraction.getD []))

/-- The power of ten that the number of all digits is scaled by. -/
def scale (numeral : UnsignedNumeral) : Int :=
  exponentValue numeral.exponent - (numeral.fraction.getD []).length

end UnsignedNumeral

/-- A numeral with its sign. -/
structure DecimalNumeral extends UnsignedNumeral where
  /-- The sign. -/
  sign : NumeralSign

namespace DecimalNumeral

/-- The numeral as text. -/
def text (numeral : DecimalNumeral) : List Char :=
  numeral.sign.text ++ numeral.toUnsignedNumeral.text

/-- The binary64 number nearest to the numeral. -/
def number (numeral : DecimalNumeral) : Number :=
  .ofDecimal numeral.sign.isMinus numeral.digits numeral.scale

end DecimalNumeral

/-- The words for numbers that no numeral stands for, with a sign in front or not. -/
inductive NumberWord : List Char → Number → Prop where
  /-- Infinity, in short or in full. -/
  | infinite (sign : NumeralSign) {word : List Char}
      (h : Text.lower word = "inf".toList ∨ Text.lower word = "infinity".toList) :
      NumberWord (sign.text ++ word) (.infinite sign.isMinus)
  /-- The value that equals nothing. -/
  | nan (sign : NumeralSign) {word : List Char} (h : Text.lower word = "nan".toList) :
      NumberWord (sign.text ++ word) .nan

/-! ### Digits and signs -/

/-- A digit is read as itself. -/
theorem digitValue?_digitChar (digit : Fin 10) :
    digitValue? (digitChar digit) = some digit.val := by
  revert digit
  decide

/-- What is read as a digit is the character of that digit. -/
theorem eq_digitChar_of_digitValue? {c : Char} {n : Nat} (h : digitValue? c = some n) :
    ∃ digit : Fin 10, c = digitChar digit ∧ n = digit.val := by
  rw [digitValue?] at h
  split at h
  · rename_i hrange
    have hlow : 48 ≤ c.toNat := hrange.1
    have hhigh : c.toNat ≤ 57 := hrange.2
    have hzero : '0'.toNat = 48 := rfl
    obtain rfl := Option.some.inj h
    refine ⟨⟨c.toNat - 48, by omega⟩, ?_, rfl⟩
    rw [digitChar, hzero, Nat.add_sub_cancel' hlow, Char.ofNat_toNat]
  · cases h

/-- Whether no digit stands at the front of a text. -/
def NoDigitFirst (text : List Char) : Prop := ∀ c ∈ text.head?, digitValue? c = none

/-- Whether no sign stands at the front of a text. -/
def NoSignFirst (text : List Char) : Prop := ∀ c ∈ text.head?, c ≠ '-' ∧ c ≠ '+'

/-- Digits are read up to where no digit follows. -/
theorem spanDigits_digitsText (digits : List (Fin 10)) {rest : List Char}
    (h : NoDigitFirst rest) :
    spanDigits (digitsText digits ++ rest) = (plainDigits digits, rest) := by
  induction digits with
  | nil =>
    cases rest with
    | nil => rfl
    | cons c rest =>
      have hc : digitValue? c = none := h c rfl
      simp [digitsText, plainDigits, spanDigits, hc]
  | cons digit digits ih =>
    change spanDigits (digitChar digit :: (digitsText digits ++ rest)) = _
    rw [spanDigits, digitValue?_digitChar]
    dsimp only
    rw [ih]
    rfl

/-- What is read as digits are digits, and no digit follows them. -/
theorem spanDigits_spec (text : List Char) :
    ∃ digits rest, spanDigits text = (plainDigits digits, rest) ∧
      text = digitsText digits ++ rest ∧ NoDigitFirst rest := by
  induction text with
  | nil => exact ⟨[], [], rfl, rfl, by simp [NoDigitFirst]⟩
  | cons c text ih =>
    cases hc : digitValue? c with
    | none =>
      refine ⟨[], c :: text, ?_, rfl, by simpa [NoDigitFirst] using hc⟩
      rw [spanDigits, hc]
      rfl
    | some n =>
      obtain ⟨digit, rfl, rfl⟩ := eq_digitChar_of_digitValue? hc
      obtain ⟨digits, rest, hspan, rfl, hrest⟩ := ih
      refine ⟨digit :: digits, rest, ?_, rfl, hrest⟩
      rw [spanDigits, hc]
      dsimp only
      rw [hspan]
      rfl

/-- A sign is read in front of a text without one. -/
theorem spanSign_text (sign : NumeralSign) {rest : List Char} (h : NoSignFirst rest) :
    spanSign (sign.text ++ rest) = (sign.isMinus, rest) := by
  cases sign with
  | plus => rfl
  | minus => rfl
  | absent =>
    cases rest with
    | nil => rfl
    | cons c rest =>
      obtain ⟨hminus, hplus⟩ := h c rfl
      rw [NumeralSign.text, List.nil_append, spanSign.eq_3 _ (by simpa using hminus)
        (by simpa using hplus)]
      rfl

/-- What is read as a sign is one. -/
theorem spanSign_spec (text : List Char) :
    ∃ sign rest, spanSign text = (NumeralSign.isMinus sign, rest) ∧ text = sign.text ++ rest := by
  rw [spanSign.eq_def]
  split
  · exact ⟨.minus, _, rfl, rfl⟩
  · exact ⟨.plus, _, rfl, rfl⟩
  · exact ⟨.absent, _, rfl, rfl⟩

/-- Digits begin with no sign. -/
theorem noSignFirst_digitsText {digits : List (Fin 10)} (h : digits ≠ []) (rest : List Char) :
    NoSignFirst (digitsText digits ++ rest) := by
  cases digits with
  | nil => exact absurd rfl h
  | cons digit digits =>
    have hdigit : ∀ d : Fin 10, digitChar d ≠ '-' ∧ digitChar d ≠ '+' := by decide
    intro c hc
    obtain rfl : digitChar digit = c := Option.some.inj hc
    exact hdigit digit

/-! ### Exponents -/

/-- No digit stands at the front of an exponent. -/
theorem noDigitFirst_exponentText (exponent : Option NumeralExponent) :
    NoDigitFirst (exponentText exponent) := by
  cases exponent with
  | none => simp [exponentText, NoDigitFirst]
  | some exponent =>
    intro c hc
    obtain rfl : exponent.letter = c := Option.some.inj hc
    unfold NumeralExponent.letter
    split <;> rfl

/-- A written exponent is read as its number. -/
theorem exponentPart?_exponentText (exponent : Option NumeralExponent) :
    exponentPart? (exponentText exponent) = some (exponentValue exponent) := by
  cases exponent with
  | none => rfl
  | some exponent =>
    obtain ⟨capital, sign, digits, hdigits⟩ := exponent
    have hletter : (if capital then 'E' else 'e') = 'e' ∨ (if capital then 'E' else 'e') = 'E' := by
      cases capital <;> decide
    have hsign := spanSign_text sign (noSignFirst_digitsText hdigits [])
    have hspan : spanDigits (digitsText digits ++ []) = _ :=
      spanDigits_digitsText digits (by simp [NoDigitFirst])
    rw [List.append_nil] at hsign hspan
    rw [exponentText, NumeralExponent.text, NumeralExponent.letter, exponentPart?, if_pos hletter,
      hsign]
    dsimp only
    rw [hspan]
    cases digits with
    | nil => exact absurd rfl hdigits
    | cons digit digits => rfl

/-- What is read as an exponent is a written one. -/
theorem exponentPart?_spec {text : List Char} {value : Int} (h : exponentPart? text = some value) :
    ∃ exponent, exponentText exponent = text ∧ exponentValue exponent = value := by
  cases text with
  | nil => exact ⟨none, rfl, Option.some.inj h⟩
  | cons c text =>
    rw [exponentPart?] at h
    split at h
    · rename_i hletter
      obtain ⟨sign, rest, hsign, rfl⟩ := spanSign_spec text
      obtain ⟨digits, tail, hspan, rfl, -⟩ := spanDigits_spec rest
      rw [hsign] at h
      dsimp only at h
      rw [hspan] at h
      cases digits with
      | nil => cases h
      | cons digit digits =>
        cases tail with
        | cons next tail => cases h
        | nil =>
          refine ⟨some ⟨c = 'E', sign, digit :: digits, by simp⟩, ?_, Option.some.inj h⟩
          have hcapital : (if c = 'E' then 'E' else 'e') = c := by
            obtain rfl | rfl := hletter <;> rfl
          simp [exponentText, NumeralExponent.text, NumeralExponent.letter, hcapital]
    · cases h

/-! ### Numerals without a sign -/

/-- The digits behind a point at the front of a text, and what follows them. -/
def spanFraction : List Char → List Nat × List Char
  | '.' :: rest => spanDigits rest
  | rest => ([], rest)

/-- A numeral is taken apart into its digits and the rest, which has to be an exponent. -/
theorem unsignedDecimal?_of_spans {text rest tail : List Char} {whole fraction : List Nat}
    (hwhole : spanDigits text = (whole, rest)) (hfraction : spanFraction rest = (fraction, tail)) :
    unsignedDecimal? text =
      if whole.isEmpty && fraction.isEmpty then none
      else (exponentPart? tail).map fun exponent : Int =>
        (digitsValue (whole ++ fraction), exponent - fraction.length) := by
  have hspans : unsignedDecimal? text =
      if (spanDigits text).1.isEmpty && (spanFraction (spanDigits text).2).1.isEmpty then none
      else do
        let exponent ← exponentPart? (spanFraction (spanDigits text).2).2
        return (digitsValue ((spanDigits text).1 ++ (spanFraction (spanDigits text).2).1),
          exponent - (spanFraction (spanDigits text).2).1.length) := rfl
  rw [hspans, hwhole]
  dsimp only
  rw [hfraction]
  cases exponentPart? tail <;> rfl

/-- A written fraction is read as its digits. -/
theorem spanFraction_fractionText (fraction : Option (List (Fin 10)))
    (exponent : Option NumeralExponent) :
    spanFraction (fractionText fraction ++ exponentText exponent) =
      (plainDigits (fraction.getD []), exponentText exponent) := by
  cases fraction with
  | some digits => exact spanDigits_digitsText digits (noDigitFirst_exponentText exponent)
  | none =>
    cases exponent with
    | none => rfl
    | some exponent =>
      obtain ⟨capital, sign, digits, hdigits⟩ := exponent
      cases capital <;> rfl

/-- What is read as a fraction is a written one. -/
theorem spanFraction_spec (text : List Char) :
    ∃ fraction rest, spanFraction text = (plainDigits (fraction.getD []), rest) ∧
      text = fractionText fraction ++ rest := by
  rw [spanFraction.eq_def]
  split
  · rename_i text
    obtain ⟨digits, rest, hspan, rfl, -⟩ := spanDigits_spec text
    exact ⟨some digits, rest, hspan, rfl⟩
  · exact ⟨none, _, rfl, rfl⟩

/-- No digit stands at the front of a written fraction and exponent. -/
theorem noDigitFirst_fractionText (fraction : Option (List (Fin 10)))
    (exponent : Option NumeralExponent) :
    NoDigitFirst (fractionText fraction ++ exponentText exponent) := by
  cases fraction with
  | none => exact noDigitFirst_exponentText exponent
  | some digits =>
    intro c hc
    obtain rfl : '.' = c := Option.some.inj hc
    rfl

/-- Digits without their bound are there when the digits are. -/
theorem isEmpty_plainDigits (digits : List (Fin 10)) :
    (plainDigits digits).isEmpty = digits.isEmpty := by
  cases digits <;> rfl

namespace UnsignedNumeral

/-- A numeral is read as its digits and its scale. -/
theorem unsignedDecimal?_text (numeral : UnsignedNumeral) :
    unsignedDecimal? numeral.text = some (numeral.digits, numeral.scale) := by
  obtain ⟨whole, fraction, exponent, hdigits⟩ := numeral
  have hwhole := spanDigits_digitsText whole (noDigitFirst_fractionText fraction exponent)
  have hsome : ((plainDigits whole).isEmpty && (plainDigits (fraction.getD [])).isEmpty) =
      false := by
    rw [isEmpty_plainDigits, isEmpty_plainDigits]
    simpa [Decidable.imp_iff_not_or] using hdigits
  rw [text, unsignedDecimal?_of_spans hwhole (spanFraction_fractionText fraction exponent),
    hsome, exponentPart?_exponentText]
  simp [digits, scale, plainDigits]

/-- What is read as a numeral is one. -/
theorem exists_of_unsignedDecimal? {text : List Char} {digits : Nat} {scale : Int}
    (h : unsignedDecimal? text = some (digits, scale)) :
    ∃ numeral : UnsignedNumeral,
      numeral.text = text ∧ numeral.digits = digits ∧ numeral.scale = scale := by
  obtain ⟨whole, rest, hwhole, rfl, -⟩ := spanDigits_spec text
  obtain ⟨fraction, tail, hfraction, rfl⟩ := spanFraction_spec rest
  rw [unsignedDecimal?_of_spans hwhole hfraction, isEmpty_plainDigits, isEmpty_plainDigits] at h
  split at h
  · cases h
  · rename_i hdigits
    obtain ⟨value, hvalue, hparts⟩ := Option.map_eq_some_iff.1 h
    obtain ⟨exponent, rfl, rfl⟩ := exponentPart?_spec hvalue
    obtain ⟨rfl, rfl⟩ := Prod.mk.inj hparts
    refine ⟨⟨whole, fraction, exponent, ?_⟩, rfl, rfl, ?_⟩
    · simpa [Decidable.imp_iff_not_or] using hdigits
    · simp [UnsignedNumeral.scale, plainDigits]

/-- A numeral begins with a digit or a point. -/
theorem noSignFirst_text (numeral : UnsignedNumeral) : NoSignFirst numeral.text := by
  obtain ⟨whole, fraction, exponent, hdigits⟩ := numeral
  cases whole with
  | cons digit whole => exact noSignFirst_digitsText (by simp) _
  | nil =>
    cases fraction with
    | none => simp at hdigits
    | some digits =>
      intro c hc
      obtain rfl : '.' = c := Option.some.inj hc
      decide

/-- There is a digit in a numeral. -/
theorem exists_digit_mem_text (numeral : UnsignedNumeral) :
    ∃ digit, digitChar digit ∈ numeral.text := by
  obtain ⟨whole, fraction, exponent, hdigits⟩ := numeral
  obtain hwhole | hfraction := hdigits
  · obtain ⟨digit, hdigit⟩ := List.exists_mem_of_ne_nil whole hwhole
    exact ⟨digit, List.mem_append_left _ (List.mem_map_of_mem hdigit)⟩
  · obtain ⟨digit, hdigit⟩ := List.exists_mem_of_ne_nil _ hfraction
    cases fraction with
    | none => cases hdigit
    | some digits =>
      have hin : digitChar digit ∈ digitsText digits := List.mem_map_of_mem hdigit
      exact ⟨digit, by simp [text, fractionText, hin]⟩

end UnsignedNumeral

/-! ### Numbers -/

/-- The letters that words for values begin with. -/
def wordLetters : List Char := ['f', 'i', 'n', 't']

/-- Words for values begin with no sign, digit or point. -/
theorem of_toLower_mem_wordLetters {c : Char} (h : c.toLower ∈ wordLetters) :
    digitValue? c = none ∧ c ≠ '.' ∧ c ≠ '-' ∧ c ≠ '+' := by
  have hmarks : '.'.toLower ∉ wordLetters ∧ '-'.toLower ∉ wordLetters ∧
      '+'.toLower ∉ wordLetters := by decide
  have hdigits : ∀ digit : Fin 10, (digitChar digit).toLower ∉ wordLetters := by decide
  refine ⟨?_, fun hc => hmarks.1 (hc ▸ h), fun hc => hmarks.2.1 (hc ▸ h),
    fun hc => hmarks.2.2 (hc ▸ h)⟩
  cases hvalue : digitValue? c with
  | none => rfl
  | some n =>
    obtain ⟨digit, rfl, -⟩ := eq_digitChar_of_digitValue? hvalue
    exact absurd h (hdigits digit)

/-- What begins like a word for a value is no numeral. -/
theorem unsignedDecimal?_of_word {c : Char} (h : c.toLower ∈ wordLetters) (rest : List Char) :
    unsignedDecimal? (c :: rest) = none := by
  obtain ⟨hdigit, hpoint, -⟩ := of_toLower_mem_wordLetters h
  have hwhole : spanDigits (c :: rest) = ([], c :: rest) := by rw [spanDigits, hdigit]
  have hfraction : spanFraction (c :: rest) = ([], c :: rest) := by
    rw [spanFraction.eq_2 _ (by simpa using hpoint)]
  rw [unsignedDecimal?_of_spans hwhole hfraction]
  rfl

/-- The first letter of a text that is a word in lower case. -/
theorem exists_first_of_lower {text word : List Char} {letter : Char}
    (h : Text.lower text = letter :: word) :
    ∃ c rest, text = c :: rest ∧ c.toLower = letter := by
  obtain ⟨c, rest, rfl, hc, -⟩ := List.map_eq_cons_iff.1 h
  exact ⟨c, rest, rfl, hc⟩

namespace Number

/-- What is read as a number is a numeral, or a word for a number that has none. -/
theorem ofText?_spec {text : List Char} {x : Number} (h : ofText? text = some x) :
    (∃ numeral : DecimalNumeral, numeral.text = text ∧ numeral.number = x) ∨
      NumberWord text x := by
  obtain ⟨sign, body, hsign, rfl⟩ := spanSign_spec text
  rw [ofText?, hsign] at h
  dsimp only at h
  split at h
  · rename_i digits scale hdecimal
    obtain ⟨numeral, rfl, rfl, rfl⟩ := UnsignedNumeral.exists_of_unsignedDecimal? hdecimal
    exact .inl ⟨⟨numeral, sign⟩, rfl, Option.some.inj h⟩
  · right
    split at h
    case h_4 => cases h
    all_goals
      cases h
      rename_i hword
      rw [← String.toList_inj, String.toList_ofList] at hword
    · exact .infinite sign (.inl hword)
    · exact .infinite sign (.inr hword)
    · exact .nan sign hword

/-- A numeral is read as its number. -/
theorem ofText?_text (numeral : DecimalNumeral) : ofText? numeral.text = some numeral.number := by
  rw [ofText?, DecimalNumeral.text, spanSign_text numeral.sign numeral.noSignFirst_text]
  dsimp only
  rw [UnsignedNumeral.unsignedDecimal?_text]
  rfl

/-- The number that a word behind a sign stands for. -/
def wordNumber? (negative : Bool) (word : List Char) : Option Number :=
  match String.ofList (Text.lower word) with
  | "inf" | "infinity" => some (.infinite negative)
  | "nan" => some .nan
  | _ => none

/-- Behind a sign, a text that begins like a word for a value is looked up as a word. -/
theorem ofText?_signed (sign : NumeralSign) {c : Char} (h : c.toLower ∈ wordLetters)
    (rest : List Char) :
    ofText? (sign.text ++ c :: rest) = wordNumber? sign.isMinus (c :: rest) := by
  obtain ⟨-, -, hsigns⟩ := of_toLower_mem_wordLetters h
  have hsign : NoSignFirst (c :: rest) := by
    intro d hd
    obtain rfl : c = d := Option.some.inj hd
    exact hsigns
  rw [ofText?, spanSign_text sign hsign]
  dsimp only
  rw [unsignedDecimal?_of_word h]
  rfl

/-- A text that begins like a word for a value is looked up as a word. -/
theorem ofText?_unsigned {c : Char} (h : c.toLower ∈ wordLetters) (rest : List Char) :
    ofText? (c :: rest) = wordNumber? false (c :: rest) :=
  ofText?_signed .absent h rest

/-- A word for a number is read as this number. -/
theorem ofText?_of_word {text : List Char} {x : Number} (h : NumberWord text x) :
    ofText? text = some x := by
  cases h with
  | infinite sign hword =>
    obtain hword | hword := hword
    all_goals
      obtain ⟨c, rest, rfl, hc⟩ := exists_first_of_lower hword
      rw [ofText?_signed sign (hc ▸ by decide), wordNumber?, hword]
      rfl
  | nan sign hword =>
    obtain ⟨c, rest, rfl, hc⟩ := exists_first_of_lower hword
    rw [ofText?_signed sign (hc ▸ by decide), wordNumber?, hword]
    rfl

/-- A text is read as a number when it is a numeral or a word for a number, and not otherwise. -/
theorem ofText?_eq_some_iff {text : List Char} {x : Number} :
    ofText? text = some x ↔
      (∃ numeral : DecimalNumeral, numeral.text = text ∧ numeral.number = x) ∨
        NumberWord text x := by
  refine ⟨ofText?_spec, ?_⟩
  rintro (⟨numeral, rfl, rfl⟩ | hword)
  · exact ofText?_text numeral
  · exact ofText?_of_word hword

end Number

end ScopeQuery
