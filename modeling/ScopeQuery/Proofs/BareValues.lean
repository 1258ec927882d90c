import Mathlib.Data.List.DropRight
import ScopeQuery.Proofs.DecimalNumerals
import ScopeQuery.Proofs.PrintedConditions

/-!
# Bare values

The value of a text in no quotes, brackets or braces. It is a number when the text is a
decimal numeral, a truth value or null when it is their word in any letter case, and else the
text itself. The words for infinity and for the value that equals nothing are numbers too, so
they are the words that are not read as themselves, and a condition on the latter holds of no
value at all.
-/

namespace ScopeQuery

/-! ### Texts between two characters -/

/-- Whether a text stands between two characters. -/
def EnclosedBy (opening close : Char) (text : List Char) : Prop :=
  ∃ inner, text = opening :: inner ++ [close]

/-- Whether a text stands in no braces, quotes or brackets. -/
structure IsBareText (text : List Char) : Prop where
  /-- It is no placeholder. -/
  noBraces : ¬EnclosedBy '\x7b' '\x7d' text
  /-- It is in no quotes. -/
  noQuotes : ∀ quote ∈ ['"', '\''], ¬EnclosedBy quote quote text
  /-- It is no list. -/
  noBrackets : ¬EnclosedBy '[' ']' text

/-- A text is bare when it begins with no brace, quote or bracket. -/
theorem isBareText_of_head {text : List Char} {c : Char} (h : text.head? = some c)
    (hc : c ∉ ['\x7b', '"', '\'', '[']) : IsBareText text := by
  have hfirst {opening close : Char} (hopening : opening ∈ ['\x7b', '"', '\'', '[']) :
      ¬EnclosedBy opening close text := by
    rintro ⟨inner, rfl⟩
    obtain rfl : opening = c := Option.some.inj h
    exact hc hopening
  refine ⟨hfirst (by simp), fun quote hquote => hfirst ?_, hfirst (by simp)⟩
  simp only [List.mem_cons, List.not_mem_nil, or_false] at hquote ⊢
  tauto

/-- Nothing is stripped from a text that does not stand between the two characters. -/
theorem stripEnds?_of_not_enclosed {opening close : Char} {text : List Char}
    (h : ¬EnclosedBy opening close text) : stripEnds? opening close text = none := by
  cases hinner : stripEnds? opening close text with
  | none => rfl
  | some inner => exact absurd ⟨inner, stripEnds?_append hinner⟩ h

/-- Trimming a second time changes nothing. -/
theorem trim_trim (text : List Char) : Text.trim (Text.trim text) = Text.trim text := by
  have htrim (t : List Char) :
      Text.trim t = (t.dropWhile Text.isBlank).rdropWhile Text.isBlank := rfl
  -- What is cut at the end leaves the first character where it is.
  have hfront : ((text.dropWhile Text.isBlank).rdropWhile Text.isBlank).dropWhile Text.isBlank =
      (text.dropWhile Text.isBlank).rdropWhile Text.isBlank := by
    rw [List.dropWhile_eq_self_iff]
    intro hpos
    rw [List.IsPrefix.getElem ( List.rdropWhile_prefix _ _) hpos]
    exact List.dropWhile_eq_self_iff.1 (List.dropWhile_idempotent _ text) _
  rw [htrim (Text.trim text), htrim text, hfront]
  exact List.rdropWhile_idempotent _ _

/-- A text is read without the blanks around it. -/
theorem parseValue_trim (context : ParseContext) (text : List Char) :
    parseValue context (Text.trim text) = parseValue context text := by
  rw [parseValue, trim_trim]
  conv_rhs => rw [parseValue]

/-! ### Keywords -/

/-- The word for a truth value. -/
def truthWord (b : Bool) : List Char := (if b then "true" else "false").toList

/-- The word for null. -/
def nullWord : List Char := "null".toList

/-- Keywords are the words for truth values and null, in any letter case. -/
theorem keyword?_eq_some_iff {text : List Char} {value : Value} :
    keyword? text = some value ↔
      (∃ b, Text.lower text = truthWord b ∧ value = .bool b) ∨
        (Text.lower text = nullWord ∧ value = .null) := by
  constructor
  · intro h
    rw [keyword?] at h
    split at h
    case h_4 => cases h
    all_goals
      cases h
      rename_i hword
      rw [← String.toList_inj, String.toList_ofList] at hword
    · exact .inl ⟨true, hword, rfl⟩
    · exact .inl ⟨false, hword, rfl⟩
    · exact .inr ⟨hword, rfl⟩
  · rintro (⟨b, hword, rfl⟩ | ⟨hword, rfl⟩)
    · rw [keyword?, hword]
      cases b <;> rfl
    · rw [keyword?, hword]
      rfl

/-- No keyword is read as a number. -/
theorem ofText?_of_keyword {text : List Char} {value : Value} (h : keyword? text = some value) :
    Number.ofText? text = none := by
  obtain ⟨b, hword, -⟩ | ⟨hword, -⟩ := keyword?_eq_some_iff.1 h
  · cases b
    all_goals
      obtain ⟨c, rest, rfl, hc⟩ := exists_first_of_lower hword
      rw [Number.ofText?_unsigned (hc ▸ by decide), Number.wordNumber?, hword]
      rfl
  · obtain ⟨c, rest, rfl, hc⟩ := exists_first_of_lower hword
    rw [Number.ofText?_unsigned (hc ▸ by decide), Number.wordNumber?, hword]
    rfl

/-! ### Values that equal nothing -/

/-- The nearest number to a fraction equals itself. -/
theorem Number.ofUnits_ne_nan (negative : Bool) (num den : Nat) :
    ofUnits negative num den ≠ .nan := by
  rw [ofUnits]
  split <;> simp

/-- The number of a numeral equals itself. -/
theorem DecimalNumeral.number_ne_nan (numeral : DecimalNumeral) : numeral.number ≠ .nan := by
  have hunits := Number.ofUnits_ne_nan numeral.sign.isMinus
  rw [number, Number.ofDecimal]
  split_ifs <;> simp [hunits]

/-- Every number but one equals itself. -/
theorem Number.eq_self {x : Number} (h : x ≠ .nan) : x.eq x = true := by
  cases x with
  | nan => exact absurd rfl h
  | infinite negative => simp [Number.eq, Number.compare]
  | finite negative units => simp [Number.eq, Number.compare]

/-- No value equals the number that differs from itself. -/
theorem Value.eq_nan (other : Value) : (Value.number .nan).eq other = false := by
  cases other with
  | number x => cases x <;> rfl
  | _ => rfl

/-! ### The value of a bare text -/

/-- The value of a bare text: that of a keyword, of a number, or the text itself. -/
def bareValue (text : List Char) : Value := (keyword? text).getD (plainValue text)

/-- A bare text is always read, as what it is without the blanks around it. -/
theorem parseValue_of_bare (context : ParseContext) {text : List Char}
    (h : IsBareText (Text.trim text)) :
    parseValue context text = .ok (bareValue (Text.trim text)) := by
  have hbraces : placeholder? (Text.trim text) = none := stripEnds?_of_not_enclosed h.noBraces
  have hquotes : unquoted? (Text.trim text) = none := by
    rw [unquoted?, stripEnds?_of_not_enclosed (h.noQuotes '"' (by simp))]
    exact stripEnds?_of_not_enclosed (h.noQuotes '\'' (by simp))
  rw [parseValue, hbraces, hquotes, bareValue]
  dsimp only
  cases keyword? (Text.trim text) with
  | some value => rfl
  | none =>
    dsimp only
    split
    · rename_i inner hinner
      rw [stripEnds?_of_not_enclosed h.noBrackets] at hinner
      cases hinner
    · rfl

/-- Whether a text is the word for no other value. -/
structure IsOrdinaryText (text : List Char) : Prop where
  /-- It is no numeral. -/
  noNumeral : ∀ numeral : DecimalNumeral, numeral.text ≠ text
  /-- It is no word for a number. -/
  noNumberWord : ∀ x, ¬NumberWord text x
  /-- It is no word for a truth value. -/
  noTruthWord : ∀ b, Text.lower text ≠ truthWord b
  /-- It is not the word for null. -/
  noNullWord : Text.lower text ≠ nullWord

/-- A text is ordinary when it is read neither as a keyword nor as a number. -/
theorem isOrdinaryText_iff {text : List Char} :
    IsOrdinaryText text ↔ keyword? text = none ∧ Number.ofText? text = none := by
  constructor
  · intro h
    constructor
    · rw [Option.eq_none_iff_forall_ne_some]
      intro value hvalue
      obtain ⟨b, hword, -⟩ | ⟨hword, -⟩ := keyword?_eq_some_iff.1 hvalue
      · exact h.noTruthWord b hword
      · exact h.noNullWord hword
    · rw [Option.eq_none_iff_forall_ne_some]
      intro x hx
      obtain ⟨numeral, htext, -⟩ | hword := Number.ofText?_eq_some_iff.1 hx
      · exact h.noNumeral numeral htext
      · exact h.noNumberWord x hword
  · rintro ⟨hkeyword, hnumber⟩
    refine ⟨?_, ?_, ?_, ?_⟩
    · intro numeral htext
      simp [Number.ofText?_eq_some_iff.2 (.inl ⟨numeral, htext, rfl⟩)] at hnumber
    · intro x hword
      simp [Number.ofText?_eq_some_iff.2 (.inr hword)] at hnumber
    · intro b hword
      simp [keyword?_eq_some_iff.2 (.inl ⟨b, hword, rfl⟩)] at hkeyword
    · intro hword
      simp [keyword?_eq_some_iff.2 (.inr ⟨hword, rfl⟩)] at hkeyword

/-- A bare text is a keyword, a number or an ordinary text, and one of these only. -/
theorem bareValue_cases (text : List Char) :
    (∃ value, keyword? text = some value ∧ Number.ofText? text = none ∧
        bareValue text = value) ∨
      (∃ x, keyword? text = none ∧ Number.ofText? text = some x ∧
        bareValue text = .number x) ∨
      (keyword? text = none ∧ Number.ofText? text = none ∧
        bareValue text = .string (String.ofList text)) := by
  rw [bareValue]
  cases hkeyword : keyword? text with
  | some value => exact .inl ⟨value, rfl, ofText?_of_keyword hkeyword, rfl⟩
  | none =>
    rw [Option.getD_none, plainValue]
    cases hnumber : Number.ofText? text with
    | some x => exact .inr (.inl ⟨x, rfl, rfl, rfl⟩)
    | none => exact .inr (.inr ⟨rfl, rfl, rfl⟩)

/-- The value of a bare text equals nothing only when it is the number that does not. -/
theorem bareValue_equalsNothing_iff {text : List Char} :
    (∀ other, (bareValue text).eq other = false) ↔ bareValue text = .number .nan := by
  constructor
  · intro hnothing
    have hself := hnothing (bareValue text)
    obtain ⟨value, hkeyword, -, hvalue⟩ | ⟨x, -, -, hvalue⟩ | ⟨-, -, hvalue⟩ :=
      bareValue_cases text
    · rw [hvalue] at hself
      obtain ⟨b, -, rfl⟩ | ⟨-, rfl⟩ := keyword?_eq_some_iff.1 hkeyword
      · simp [Value.eq] at hself
      · simp [Value.eq] at hself
    · rw [hvalue] at hself ⊢
      by_contra hnan
      have hx : x.eq x = true := Number.eq_self (fun h => hnan (h ▸ rfl))
      simp [Value.eq, hx] at hself
    · rw [hvalue] at hself
      simp [Value.eq] at hself
  · intro hnan other
    rw [hnan, Value.eq_nan]

/-- How the value of a bare text follows from the text. -/
structure BareReading (text : List Char) (value : Value) : Prop where
  /-- It is a number when the text is a numeral or the word for a number. -/
  number_iff : ∀ x, value = .number x ↔
    (∃ numeral : DecimalNumeral, numeral.text = text ∧ numeral.number = x) ∨ NumberWord text x
  /-- It is a truth value when the text is its word, in any letter case. -/
  bool_iff : ∀ b, value = .bool b ↔ Text.lower text = truthWord b
  /-- It is null when the text is the word for null, in any letter case. -/
  null_iff : value = .null ↔ Text.lower text = nullWord
  /-- It is a string when the text is an ordinary one, and then it is the text. -/
  string_iff : ∀ s, value = .string s ↔ s = String.ofList text ∧ IsOrdinaryText text
  /-- It equals nothing when the text is the word for the number that equals nothing. -/
  equalsNothing_iff : (∀ other, value.eq other = false) ↔ NumberWord text .nan

/-- The value of a bare text is a number when the text is read as one. -/
theorem bareValue_eq_number_iff {text : List Char} {x : Number} :
    bareValue text = .number x ↔
      (∃ numeral : DecimalNumeral, numeral.text = text ∧ numeral.number = x) ∨
        NumberWord text x := by
  rw [← Number.ofText?_eq_some_iff]
  obtain ⟨value, hkeyword, hnumber, hvalue⟩ | ⟨y, -, hnumber, hvalue⟩ | ⟨-, hnumber, hvalue⟩ :=
    bareValue_cases text
  · obtain ⟨b, -, rfl⟩ | ⟨-, rfl⟩ := keyword?_eq_some_iff.1 hkeyword
    all_goals simp [hvalue, hnumber]
  · simp [hvalue, hnumber]
  · simp [hvalue, hnumber]

/-- The value of a bare text is that of a keyword when the text is this keyword. -/
theorem bareValue_eq_keyword_iff {text : List Char} {value : Value}
    (h : (∃ b, value = .bool b) ∨ value = .null) :
    bareValue text = value ↔ keyword? text = some value := by
  obtain ⟨other, hkeyword, -, hvalue⟩ | ⟨y, hkeyword, -, hvalue⟩ | ⟨hkeyword, -, hvalue⟩ :=
    bareValue_cases text
  · rw [hvalue, hkeyword, Option.some_inj]
  all_goals
    rw [hvalue, hkeyword]
    obtain ⟨b, rfl⟩ | rfl := h
    all_goals simp

/-- The value of a bare text is a string when the text is an ordinary one. -/
theorem bareValue_eq_string_iff {text : List Char} {s : String} :
    bareValue text = .string s ↔ s = String.ofList text ∧ IsOrdinaryText text := by
  rw [isOrdinaryText_iff]
  obtain ⟨value, hkeyword, hnumber, hvalue⟩ | ⟨y, hkeyword, hnumber, hvalue⟩ |
      ⟨hkeyword, hnumber, hvalue⟩ := bareValue_cases text
  · obtain ⟨b, -, rfl⟩ | ⟨-, rfl⟩ := keyword?_eq_some_iff.1 hkeyword
    all_goals simp [hvalue, hkeyword]
  · simp [hvalue, hnumber]
  · simp [hvalue, hkeyword, hnumber, eq_comm]

/-- The value of a bare text follows from the text. -/
theorem bareReading_bareValue (text : List Char) : BareReading text (bareValue text) where
  number_iff x := bareValue_eq_number_iff
  bool_iff b := by
    rw [bareValue_eq_keyword_iff (.inl ⟨b, rfl⟩), keyword?_eq_some_iff]
    simp
  null_iff := by
    rw [bareValue_eq_keyword_iff (.inr rfl), keyword?_eq_some_iff]
    simp
  string_iff s := bareValue_eq_string_iff
  equalsNothing_iff := by
    -- A numeral too large for a number is infinite, so only the word is left.
    rw [bareValue_equalsNothing_iff, bareValue_eq_number_iff, or_iff_right]
    rintro ⟨numeral, -, hnan⟩
    exact numeral.number_ne_nan hnan

/-- A text that is taken apart into a field, an operator and the text of a value compares the
field with this value. -/
theorem parseCondition_of_value {context : ParseContext} {source : String}
    {before after : List Char} {operator : Operator} {value : Value}
    (hsplit : splitOperator? (Text.trim source.toList) = some (before, operator, after))
    (hfield : (Text.trim before).isEmpty = false) (hafter : (Text.trim after).isEmpty = false)
    (hvalue : parseValue context after = .ok value) :
    parseCondition context source =
      Condition.compare (.path (String.ofList (Text.trim before))) operator (.ofValue value) := by
  have hsource : (Text.trim source.toList).isEmpty = false := by
    cases htrim : Text.trim source.toList with
    | nil => simp [htrim, splitOperator?] at hsplit
    | cons c rest => rfl
  simp only [parseCondition, parseTrimmed, hsource, hsplit, hfield, hafter, parseValue_trim,
    hvalue, Bool.false_eq_true, if_false]

/-- A text in no quotes, brackets or braces is always read, and what it is read as follows from
the text without the blanks around it: a number from a numeral or from a word for a number, a
truth value or null from their words in any letter case, and the text itself else. A condition
carries this value, so that it carries one that equals nothing when it is written as the word
for the number that equals nothing. -/
theorem parseValue_bare (context : ParseContext) {text : List Char}
    (h : IsBareText (Text.trim text)) :
    ∃ value, parseValue context text = .ok value ∧ BareReading (Text.trim text) value ∧
      ∀ (source : String) (before : List Char) (operator : Operator) (condition : Condition),
        splitOperator? (Text.trim source.toList) = some (before, operator, text) →
        parseCondition context source = .ok condition →
        condition.test = some (operator, .ofValue value) := by
  refine ⟨bareValue (Text.trim text), parseValue_of_bare context h,
    bareReading_bareValue (Text.trim text), ?_⟩
  intro source before operator condition hsplit hcondition
  have hparts := parseCondition_inv hcondition
  rw [hsplit] at hparts
  obtain ⟨value, hvalue, rfl⟩ := hparts
  rw [parseValue_trim, parseValue_of_bare context h] at hvalue
  obtain rfl := Except.ok.inj hvalue
  rfl

/-- A numeral with a sign, a point in front and an exponent is a number in a condition. -/
theorem parseValue_bare_numeral :
    IsBareText (Text.trim " -.5E+1".toList) ∧
      parseValue [] " -.5E+1".toList = .ok (.number (.ofDecimal true 5 0)) ∧
      ∃ condition, parseCondition [] "price = -.5E+1" = .ok condition ∧
        condition.test = some (.eq, .scalar (.number (.ofDecimal true 5 0))) := by
  have htrim : Text.trim " -.5E+1".toList = "-.5E+1".toList := by decide
  have hbare : IsBareText (Text.trim " -.5E+1".toList) := by
    rw [htrim]
    exact isBareText_of_head rfl (by decide)
  obtain ⟨value, hvalue, hreading, hcondition⟩ := parseValue_bare [] hbare
  have hnumber : value = .number (.ofDecimal true 5 0) := by
    refine (hreading.number_iff _).2
      (.inl ⟨⟨⟨[], some [5], some ⟨true, .plus, [1], ?_⟩, ?_⟩, .minus⟩, ?_, rfl⟩)
    · simp
    · simp
    · rw [htrim]
      decide
  subst hnumber
  refine ⟨hbare, hvalue, ?_⟩
  have hsplit : splitOperator? (Text.trim "price = -.5E+1".toList) =
      some ("price ".toList, .eq, " -.5E+1".toList) := by decide
  have hread := parseCondition_of_value hsplit (by decide) (by decide) hvalue
  exact ⟨_, hread, hcondition _ _ _ _ hsplit hread⟩

/-- A word that is no numeral is read as the number that equals nothing. -/
theorem parseValue_word_equalsNothing :
    IsBareText "nan".toList ∧ (∀ numeral : DecimalNumeral, numeral.text ≠ "nan".toList) ∧
      parseValue [] "nan".toList = .ok (.number .nan) ∧
      (∀ other, (Value.number .nan).eq other = false) ∧
      ∃ condition, parseCondition [] "status = nan" = .ok condition ∧
        condition.test = some (.eq, .scalar (.number .nan)) := by
  have hbare : IsBareText "nan".toList := isBareText_of_head rfl (by decide)
  have hnumeral : ∀ numeral : DecimalNumeral, numeral.text ≠ "nan".toList := by
    intro numeral htext
    obtain ⟨digit, hmem⟩ := numeral.exists_digit_mem_text
    have hdigits : ∀ digit : Fin 10, digitChar digit ∉ "nan".toList := by decide
    refine hdigits digit ?_
    rw [← htext, DecimalNumeral.text]
    exact List.mem_append_right _ hmem
  have hword : NumberWord "nan".toList .nan := .nan .absent (by decide)
  have hvalue {text : List Char} (htext : Text.trim text = "nan".toList) :
      parseValue [] text = .ok (.number .nan) := by
    rw [parseValue_of_bare [] (htext ▸ hbare), htext, bareValue_eq_number_iff.2 (.inr hword)]
  have hsplit : splitOperator? (Text.trim "status = nan".toList) =
      some ("status ".toList, .eq, " nan".toList) := by decide
  have hread := parseCondition_of_value hsplit (by decide) (by decide) (hvalue (by decide))
  exact ⟨hbare, hnumeral, hvalue (by decide), Value.eq_nan, _, hread, rfl⟩

end ScopeQuery
