import ScopeQuery.Proofs.OperatorTexts

/-!
# Operators in quotes

The operator of a condition text is the first one that is spelled in it, and the search for it
does not look at quotes. So the text of an operator in a quoted literal is passed over as long as
an operator stands in front of the literal, and it is taken where none does.
-/

namespace ScopeQuery

namespace Text

/-! ### Quoted spans -/

/-- Whether a character begins a quoted span, which ends at the next such character. -/
def IsQuote (c : Char) : Prop := c = '"' ∨ c = '\''

/-- Whether the end of a text, read from the left, is outside the quoted spans of the text and what
follows it. A quote that none follows is a character like any other. -/
inductive EndsOutside : List Char → List Char → Prop where
  /-- Nothing has been read. -/
  | start (rest : List Char) : EndsOutside [] rest
  /-- A character that is no quote has been read first. -/
  | plain {c : Char} {front rest : List Char} (hc : ¬IsQuote c) (h : EndsOutside front rest) :
      EndsOutside (c :: front) rest
  /-- A span has been read first. -/
  | span {quote : Char} {inner front rest : List Char} (hquote : IsQuote quote)
      (hinner : quote ∉ inner) (h : EndsOutside front rest) :
      EndsOutside (quote :: inner ++ quote :: front) rest
  /-- A quote has been read first that nothing closes. -/
  | unclosed {quote : Char} {front rest : List Char} (hquote : IsQuote quote)
      (hrest : quote ∉ front ++ rest) (h : EndsOutside front rest) :
      EndsOutside (quote :: front) rest

/-- Outside of spans is where no quote has been read. -/
theorem endsOutside_of_noQuote {front : List Char} (h : ∀ c ∈ front, ¬IsQuote c)
    (rest : List Char) : EndsOutside front rest := by
  induction front with
  | nil => exact .start rest
  | cons c front ih => exact .plain (h c (by simp)) (ih fun d hd => h d (by simp [hd]))

/-- A quoted span of a text, with what stands in front of it and behind it. -/
structure QuotedSpan (text front : List Char) (quote : Char) (inner back : List Char) : Prop where
  /-- The text. -/
  split : text = front ++ quote :: inner ++ quote :: back
  /-- The span begins with a quote. -/
  opens : IsQuote quote
  /-- The next such quote ends it. -/
  closes : quote ∉ inner
  /-- It begins outside other spans. -/
  outside : EndsOutside front (quote :: inner ++ quote :: back)

/-- The character behind what stands in front of a span is its opening quote. -/
theorem QuotedSpan.getElem?_eq {text front inner back : List Char} {quote : Char}
    (h : QuotedSpan text front quote inner back) : text[front.length]? = some quote := by
  rw [h.split, List.append_assoc, List.getElem?_append_right (Nat.le_refl _)]
  simp

/-- Whether a part of a text, given with what stands in front of it, reaches into a quoted span of
the text. -/
def InQuotes (text front part : List Char) : Prop :=
  ∃ lead quote inner back, QuotedSpan text lead quote inner back ∧
    lead.length < (front ++ part).length ∧
    front.length < (lead ++ quote :: inner ++ [quote]).length

/-- A part without quotes that reaches into a span begins behind its opening quote. -/
theorem InQuotes.begins_inside {text front part back : List Char} (h : InQuotes text front part)
    (hsplit : text = front ++ part ++ back) (hplain : ∀ c ∈ part, ¬IsQuote c) :
    ∃ lead quote inner behind, QuotedSpan text lead quote inner behind ∧
      lead.length < front.length ∧ front.length < (lead ++ quote :: inner ++ [quote]).length := by
  obtain ⟨lead, quote, inner, behind, hspan, hbefore, hafter⟩ := h
  refine ⟨lead, quote, inner, behind, hspan, Nat.lt_of_not_le fun hle => ?_, hafter⟩
  -- Otherwise the opening quote is a character of the part.
  have hquote := hspan.getElem?_eq
  have hpart : text[lead.length]? = part[lead.length - front.length]? := by
    rw [List.length_append] at hbefore
    rw [hsplit, List.append_assoc, List.getElem?_append_right hle,
      List.getElem?_append_left (by omega)]
  rw [hpart] at hquote
  exact hplain quote (List.mem_of_getElem? hquote) hspan.opens

end Text

/-! ### Spelled operators -/

/-- Whether an operator is spelled in a text, in any letter case, with what stands in front of it
and behind it. -/
structure Spelled (text front spelling back : List Char) (operator : Operator) : Prop where
  /-- The text. -/
  split : text = front ++ spelling ++ back
  /-- It is a spelling of the operator. -/
  known : (Text.lower spelling, operator) ∈ operatorSpellings

/-- No operator is spelled with a quote. -/
theorem operatorSpellings_noQuote :
    ∀ entry ∈ operatorSpellings, '"' ∉ entry.1 ∧ '\'' ∉ entry.1 := by
  decide

section Spelled

variable {text front spelling back : List Char} {operator : Operator}

/-- There is no quote in a spelling. -/
theorem Spelled.noQuote (h : Spelled text front spelling back operator) :
    ∀ c ∈ spelling, ¬Text.IsQuote c := by
  obtain ⟨hdouble, hsingle⟩ := operatorSpellings_noQuote _ h.known
  intro c hc hquote
  -- A quote in the spelling would be in its lower case too.
  have hlower : c.toLower ∈ Text.lower spelling := List.mem_map_of_mem hc
  rcases hquote with rfl | rfl
  · exact hdouble hlower
  · exact hsingle hlower

/-- An operator that is found at the front of a text is spelled there. -/
theorem operatorAt?_spec (h : operatorAt? text = some (operator, back)) :
    ∃ spelling, Spelled text [] spelling back operator := by
  rw [operatorAt?_eq, Option.map_eq_some_iff] at h
  obtain ⟨entry, hfound, hentry⟩ := h
  obtain ⟨rfl, rfl⟩ := Prod.mk.inj hentry
  have hlead : entry.1 <+: Text.lower text := by
    have hprefix := List.find?_some hfound
    exact List.isPrefixOf_iff_prefix.1 hprefix
  have hlower : Text.lower (text.take entry.1.length) = entry.1 := by
    rw [Text.lower, List.map_take]
    exact (List.prefix_iff_eq_take.1 hlead).symm
  refine ⟨text.take entry.1.length, ?_, ?_⟩
  · rw [List.nil_append, List.take_append_drop]
  · rw [hlower]
    exact List.mem_of_find?_eq_some hfound

/-- Where an operator is spelled at the front of a text, one is found. -/
theorem Spelled.operatorAt?_ne_none (h : Spelled text [] spelling back operator) :
    operatorAt? text ≠ none := by
  intro hnone
  rw [operatorAt?_eq, Option.map_eq_none_iff, List.find?_eq_none] at hnone
  refine hnone _ h.known (List.isPrefixOf_iff_prefix.2 ?_)
  rw [h.split, List.nil_append, Text.lower_append]
  exact List.prefix_append _ _

/-- A text is taken apart at the first operator that is spelled in it. -/
theorem splitOperator?_spec {before after : List Char}
    (h : splitOperator? text = some (before, operator, after)) :
    (∃ spelling, Spelled text before spelling after operator) ∧
      ∀ front other back found, Spelled text front other back found →
        before.length ≤ front.length := by
  induction text generalizing before with
  | nil => cases h
  | cons c rest ih =>
    rw [splitOperator?] at h
    cases hhere : operatorAt? (c :: rest) with
    | some parts =>
      rw [hhere] at h
      cases h
      exact ⟨operatorAt?_spec hhere, fun _ _ _ _ _ => Nat.zero_le _⟩
    | none =>
      rw [hhere] at h
      cases hlater : splitOperator? rest with
      | none =>
        rw [hlater] at h
        cases h
      | some parts =>
        obtain ⟨between, later, behind⟩ := parts
        rw [hlater] at h
        cases h
        obtain ⟨⟨spelling, hspelled⟩, hfirst⟩ := ih hlater
        refine ⟨⟨spelling, ?_, hspelled.known⟩, fun front other back found hother => ?_⟩
        · rw [hspelled.split]
          rfl
        · -- None is spelled right here, so each is spelled in what follows.
          cases front with
          | nil => exact absurd hhere hother.operatorAt?_ne_none
          | cons d front =>
            have hsplit := (List.cons.inj hother.split).2
            exact Nat.succ_le_succ (hfirst front other back found ⟨hsplit, hother.known⟩)

end Spelled

/-- Whether an operator is spelled at a position of a text and reaches into a quoted span. -/
def SpelledInQuotes (text : List Char) (start : Nat) : Prop :=
  ∃ front spelling back operator, Spelled text front spelling back operator ∧
    front.length = start ∧ Text.InQuotes text front spelling

/-- Whether an operator is spelled at a position of a text, outside the quoted spans. -/
def SpelledOutside (text : List Char) (start : Nat) : Prop :=
  ∃ front spelling back operator, Spelled text front spelling back operator ∧
    front.length = start ∧ ¬Text.InQuotes text front spelling

namespace Spelled

variable {text before spelling after : List Char} {operator : Operator}

/-- The first operator that is spelled reaches into a quoted span exactly when each one outside
the spans has one in front of it that reaches into a span. -/
theorem inQuotes_iff (h : Spelled text before spelling after operator)
    (hfirst : ∀ front other back found, Spelled text front other back found →
      before.length ≤ front.length) :
    Text.InQuotes text before spelling ↔
      ∀ start, SpelledOutside text start →
        ∃ earlier, earlier < start ∧ SpelledInQuotes text earlier := by
  constructor
  · rintro hquoted _ ⟨front, other, back, found, hother, rfl, houtside⟩
    refine ⟨before.length, ?_, before, spelling, after, operator, h, rfl, hquoted⟩
    refine Nat.lt_of_le_of_ne (hfirst front other back found hother) fun hsame => houtside ?_
    -- What is spelled at the same place begins inside the same span.
    obtain ⟨lead, quote, inner, behind, hspan, hbefore, hafter⟩ :=
      hquoted.begins_inside h.split h.noQuote
    rw [hsame] at hbefore hafter
    refine ⟨lead, quote, inner, behind, hspan, ?_, hafter⟩
    rw [List.length_append]
    omega
  · intro hearlier
    refine Classical.byContradiction fun houtside => ?_
    obtain ⟨_, hlt, front, other, back, found, hother, rfl, -⟩ :=
      hearlier before.length ⟨before, spelling, after, operator, h, rfl, houtside⟩
    have hle := hfirst front other back found hother
    omega

/-- The first operator that is spelled reaches into no quoted span when one is spelled in front of
all quotes. -/
theorem outside_of_noQuote (h : Spelled text before spelling after operator)
    (hfirst : ∀ front other back found, Spelled text front other back found →
      before.length ≤ front.length)
    (hplain : ∃ front other back found, Spelled text front other back found ∧
      ∀ c ∈ front, ¬Text.IsQuote c) : ¬Text.InQuotes text before spelling := by
  intro hquoted
  obtain ⟨front, other, back, found, hother, hnoQuote⟩ := hplain
  obtain ⟨lead, quote, inner, behind, hspan, hbefore, -⟩ :=
    hquoted.begins_inside h.split h.noQuote
  have hle := hfirst front other back found hother
  have hquote := hspan.getElem?_eq
  rw [hother.split, List.append_assoc, List.getElem?_append_left (by omega)] at hquote
  exact hnoQuote quote (List.mem_of_getElem? hquote) hspan.opens

end Spelled

/-! ### The operator of a condition -/

/-- The operator of a condition stands in quotes only where the text gives no other choice. The
condition is taken apart at the first operator that is spelled in its text. This one reaches into
a quoted span exactly when each operator that is spelled outside the spans has one in front of it
that reaches into a span, and never when an operator is spelled in front of all quotes. -/
theorem parseCondition_quoted_iff (context : ParseContext) {text : String} {trimmed : List Char}
    (htrimmed : Text.trim text.toList = trimmed) {condition : Condition} {operator : Operator}
    (h : parseCondition context text = .ok condition)
    (hoperator : condition.operator = some operator) :
    ∃ before spelling after,
      splitOperator? trimmed = some (before, operator, after) ∧
      condition.subject = some (.path (String.ofList (Text.trim before))) ∧
      Spelled trimmed before spelling after operator ∧
      (∀ start, SpelledInQuotes trimmed start ∨ SpelledOutside trimmed start →
        before.length ≤ start) ∧
      (Text.InQuotes trimmed before spelling ↔
        ∀ start, SpelledOutside trimmed start →
          ∃ earlier, earlier < start ∧ SpelledInQuotes trimmed earlier) ∧
      ((∃ front other back found, Spelled trimmed front other back found ∧
          ∀ c ∈ front, ¬Text.IsQuote c) →
        ¬Text.InQuotes trimmed before spelling) := by
  have hread := parseCondition_inv h
  rw [htrimmed] at hread
  cases hsplit : splitOperator? trimmed with
  | none =>
    rw [hsplit] at hread
    rw [show condition = _ from hread] at hoperator
    cases hoperator
  | some parts =>
    obtain ⟨before, found, after⟩ := parts
    rw [hsplit] at hread
    obtain ⟨value, -, rfl⟩ := hread
    cases hoperator
    obtain ⟨⟨spelling, hspelled⟩, hfirst⟩ := splitOperator?_spec hsplit
    refine ⟨before, spelling, after, rfl, rfl, hspelled, ?_, hspelled.inQuotes_iff hfirst,
      hspelled.outside_of_noQuote hfirst⟩
    rintro _ (⟨front, other, back, found, hother, rfl, -⟩ |
      ⟨front, other, back, found, hother, rfl, -⟩)
    · exact hfirst front other back found hother
    · exact hfirst front other back found hother

/-- The operator in front of the literal is taken, and not the one inside it. -/
theorem parseCondition_quoted_iff_of_label :
    parseCondition [] "label = \"a > b\"" =
        .ok ⟨some (.path "label"), some (.eq, .scalar (.string "a > b"))⟩ ∧
      ∃ before spelling after,
        splitOperator? "label = \"a > b\"".toList = some (before, .eq, after) ∧
        Spelled "label = \"a > b\"".toList before spelling after .eq ∧
        ¬Text.InQuotes "label = \"a > b\"".toList before spelling := by
  have hfield : ∀ c ∈ "label".toList, IsFieldChar c := by
    simp [IsFieldChar, Text.isBlank]
  have hprinted : "label = \"a > b\"" = printedCondition "label" .eq (enquoted '"' "a > b") := by
    decide
  have hvalue : parseValue [] (enquoted '"' "a > b") = .ok (.string "a > b") :=
    parseValue_enquoted (.inr rfl) (by simp [IsPlaceholder])
  have hread : parseCondition [] "label = \"a > b\"" =
      .ok ⟨some (.path "label"), some (.eq, .scalar (.string "a > b"))⟩ := by
    rw [hprinted, parseCondition_of_printed (by simp) hfield .eq (enquoted_firm (.inr rfl) _),
      hvalue]
    rfl
  have htrimmed : Text.trim "label = \"a > b\"".toList = "label = \"a > b\"".toList := by decide
  obtain ⟨before, spelling, after, hsplit, -, hspelled, -, -, houtside⟩ :=
    parseCondition_quoted_iff [] htrimmed hread rfl
  refine ⟨hread, before, spelling, after, hsplit, hspelled, houtside ?_⟩
  exact ⟨"label ".toList, "=".toList, " \"a > b\"".toList, .eq, ⟨by decide, by decide⟩,
    by simp [Text.IsQuote]⟩

/-- Behind a word that is no operator the one in the literal is taken, and the literal is torn
into a field and a value. -/
theorem parseCondition_operator_in_literal :
    parseCondition [] "label contains \"a > b\"" =
        .ok ⟨some (.path "label contains \"a"), some (.gt, .scalar (.string "b\""))⟩ ∧
      splitOperator? "label contains \"a > b\"".toList =
        some ("label contains \"a".toList ++ [' '], .gt, [' '] ++ "b\"".toList) ∧
      Text.InQuotes "label contains \"a > b\"".toList ("label contains \"a".toList ++ [' '])
        ">".toList := by
  have hsplit : splitOperator? "label contains \"a > b\"".toList =
      some ("label contains \"a".toList ++ [' '], .gt, [' '] ++ "b\"".toList) := by
    decide
  refine ⟨?_, hsplit, ?_⟩
  · have hends : HasFirmEnds "b\"".toList := Text.IsWord.firm (by decide)
    have hnumber : Number.ofText? "b\"".toList = none := by decide
    have hvalue : parseValue [] "b\"".toList = .ok (.string "b\"") := by
      rw [parseValue_plain hends (by decide) (by decide) (by decide) (by decide), plainValue,
        hnumber]
      rfl
    have htext : HasFirmEnds "label contains \"a > b\"".toList :=
      ⟨⟨'l', "abel contains \"a > b\"".toList, by decide, by decide⟩,
        ⟨"label contains \"a > b".toList, '"', by decide, by decide⟩⟩
    have hfield : HasFirmEnds "label contains \"a".toList :=
      ⟨⟨'l', "abel contains \"a".toList, by decide, by decide⟩,
        ⟨"label contains \"".toList, 'a', by decide, by decide⟩⟩
    have hread := @parseCondition_of_split [] "label contains \"a"
      "label contains \"a > b\"".toList [' '] [' '] "b\"".toList .gt hsplit htext hfield hends
      oneBlank oneBlank
    rw [hvalue] at hread
    exact hread
  · refine ⟨"label contains ".toList, '"', "a > b".toList, [],
      ⟨by decide, .inl rfl, by decide, ?_⟩, by decide, by decide⟩
    exact Text.endsOutside_of_noQuote (by simp [Text.IsQuote]) _

end ScopeQuery
