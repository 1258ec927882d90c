import ScopeQuery.Condition.ConditionText
import ScopeQuery.Proofs.BlankTexts

/-!
# Printed conditions

A condition is printed as its field, the spelling of its operator and its value, with a
blank between neighbours. A text is printed between two quotes, a list of texts as the
quoted texts in square brackets. Reading a printed condition finds the operator behind
the field, whatever stands in the value, and gives the condition back.
-/

namespace ScopeQuery

/-- A text between two quote characters. Quotes inside it stay as they are. -/
def enquoted (quote : Char) (text : String) : List Char := quote :: text.toList ++ [quote]

/-- Texts with a comma and a blank between neighbours. -/
def commaSeparated : List (List Char) → List Char
  | [] => []
  | [text] => text
  | text :: next :: rest => text ++ ',' :: ' ' :: commaSeparated (next :: rest)

/-- Quoted texts in square brackets. -/
def enquotedList (quote : Char) (texts : List String) : List Char :=
  '[' :: commaSeparated (texts.map (enquoted quote)) ++ [']']

/-- A condition as text: the field, the operator and the printed value. -/
def printedCondition (field : String) (operator : Operator) (value : List Char) : String :=
  field ++ " " ++ operator.sql ++ " " ++ String.ofList value

/-- Whether a text is a placeholder: anything in braces. -/
def IsPlaceholder (text : String) : Prop := ∃ name, text.toList = '\x7b' :: name ++ ['\x7d']

/-- Whether a character can stand in the field of a printed condition: it is no blank and
begins no operator in symbols, but for the exclamation mark. -/
def IsFieldChar (c : Char) : Prop := Text.isBlank c = false ∧ c ≠ '=' ∧ c ≠ '<' ∧ c ≠ '>'

/-! ### The operator of a printed condition -/

/-- A field has firm ends. -/
theorem HasFirmEnds.field {field : List Char} (hne : field ≠ [])
    (h : ∀ c ∈ field, IsFieldChar c) : HasFirmEnds field where
  first := by
    cases field with
    | nil => exact absurd rfl hne
    | cons c rest => exact ⟨c, rest, rfl, (h c (by simp)).1⟩
  last := by
    have hsplit := (List.dropLast_concat_getLast hne).symm
    exact ⟨field.dropLast, field.getLast hne, hsplit, (h _ (List.getLast_mem hne)).1⟩

/-- Every spelling begins with a blank or a symbol that fields do not have, or is `!=`. -/
theorem operatorSpellings_start : ∀ entry ∈ operatorSpellings,
    entry.1.head? ∈ [some ' ', some '=', some '<', some '>'] ∨ entry.1 = ['!', '='] := by
  decide

/-- No operator starts with a character of the field. -/
theorem operatorAt?_field {c next : Char} (hc : IsFieldChar c) (hnext : next ≠ '=')
    (rest : List Char) : operatorAt? (c :: next :: rest) = none := by
  obtain ⟨hblank, hequal, hless, hgreater⟩ := hc
  have hspace : c ≠ ' ' := fun h => by simp [h, Text.isBlank] at hblank
  rw [operatorAt?, List.findSome?_eq_none_iff]
  rintro ⟨spelling, operator⟩ hentry
  rw [Option.map_eq_none_iff]
  obtain hstart | hdiffers := operatorSpellings_start _ hentry
  · cases spelling with
    | nil => simp at hstart
    | cons s spelling =>
      have hs : s = ' ' ∨ s = '=' ∨ s = '<' ∨ s = '>' := by simpa using hstart
      have hlower : s.isLower = false := by rcases hs with rfl | rfl | rfl | rfl <;> rfl
      have hne : c.toLower ≠ s := fun h => by
        rcases hs with rfl | rfl | rfl | rfl <;> exact absurd (eq_of_toLower hlower h) ‹_›
      rw [afterSpelling?, if_neg hne]
  · obtain rfl : spelling = ['!', '='] := hdiffers
    have hne : next.toLower ≠ '=' := fun h => hnext (eq_of_toLower rfl h)
    rw [afterSpelling?, afterSpelling?, if_neg hne, ite_self]

/-- Behind the field, the operator is the one that was printed. -/
theorem splitOperator?_spelled (operator : Operator) (value : List Char) :
    ∃ before after, splitOperator? (' ' :: operator.sql.toList ++ ' ' :: value) =
        some (before, operator, after ++ value) ∧
      (∀ c ∈ before, Text.isBlank c = true) ∧ ∀ c ∈ after, Text.isBlank c = true := by
  cases operator with
  | eq | neq | gt | gte | lt | lte => exact ⟨[' '], [' '], rfl, oneBlank, oneBlank⟩
  | _ => exact ⟨[], [], rfl, noBlanks, noBlanks⟩

/-- Where no operator starts, the text is skipped up to the operator behind it. -/
theorem splitOperator?_skip {lead rest : List Char}
    (h : ∀ front c back, lead = front ++ c :: back → operatorAt? (c :: back ++ rest) = none) :
    splitOperator? (lead ++ rest) =
      (splitOperator? rest).map fun found => (lead ++ found.1, found.2) := by
  induction lead with
  | nil =>
    rw [List.nil_append]
    cases splitOperator? rest <;> rfl
  | cons c lead ih =>
    have hlead := ih fun front d back hsplit => h (c :: front) d back (by rw [hsplit]; rfl)
    have hhere := h [] c lead rfl
    rw [List.cons_append] at hhere ⊢
    rw [splitOperator?, hhere, hlead]
    cases splitOperator? rest <;> rfl

/-- A field is skipped when no equals sign stands behind it. -/
theorem splitOperator?_field {field : List Char} (hfield : ∀ c ∈ field, IsFieldChar c)
    {b : Char} (hb : b ≠ '=') (rest : List Char) :
    splitOperator? (field ++ b :: rest) =
      (splitOperator? (b :: rest)).map fun found => (field ++ found.1, found.2) := by
  refine splitOperator?_skip fun front c back hsplit => ?_
  -- What follows a character of the field is a character of the field or what stands behind it.
  obtain ⟨next, tail, htail, hnext⟩ : ∃ next tail,
      back ++ b :: rest = next :: tail ∧ next ≠ '=' := by
    cases back with
    | nil => exact ⟨b, rest, rfl, hb⟩
    | cons d back => exact ⟨d, _, rfl, (hfield d (by simp [hsplit])).2.1⟩
  rw [List.cons_append, htail]
  exact operatorAt?_field (hfield c (by simp [hsplit])) hnext tail

/-- The operator of a printed condition is found behind its field, whatever the value is. -/
theorem splitOperator?_printed {field : List Char} (hfield : ∀ c ∈ field, IsFieldChar c)
    (operator : Operator) (value : List Char) :
    ∃ before after, splitOperator? (field ++ ' ' :: operator.sql.toList ++ ' ' :: value) =
        some (field ++ before, operator, after ++ value) ∧
      (∀ c ∈ before, Text.isBlank c = true) ∧ ∀ c ∈ after, Text.isBlank c = true := by
  obtain ⟨before, after, hsplit, hbefore, hafter⟩ := splitOperator?_spelled operator value
  refine ⟨before, after, ?_, hbefore, hafter⟩
  rw [List.append_assoc, List.cons_append, splitOperator?_field hfield (by decide),
    ← List.cons_append, hsplit]
  rfl

/-! ### The values -/

/-- A text that is no placeholder is not read as one. -/
theorem placeholder?_eq_none {text : String} (h : ¬IsPlaceholder text) :
    placeholder? text.toList = none := by
  cases hname : placeholder? text.toList with
  | none => rfl
  | some name => exact absurd ⟨name, stripEnds?_append hname⟩ h

/-- A last character is stripped from the text in front of it. -/
theorem stripLast?_of_append (close : Char) (inner : List Char) :
    stripLast? close (inner ++ [close]) = some inner := by
  induction inner with
  | nil => simp [stripLast?]
  | cons c rest ih =>
    cases rest with
    | nil => simp [stripLast?]
    | cons next rest =>
      rw [List.cons_append, List.cons_append, stripLast?, ← List.cons_append, ih]

/-- Two enclosing characters are stripped from what stands between them. -/
theorem stripEnds?_enclosed (opening close : Char) (inner : List Char) :
    stripEnds? opening close (opening :: inner ++ [close]) = some inner := by
  rw [List.cons_append, stripEnds?, if_pos rfl, stripLast?_of_append]

/-- Nothing is stripped from a text that begins otherwise. -/
theorem stripEnds?_of_ne {opening c : Char} (h : c ≠ opening) (close : Char) (rest : List Char) :
    stripEnds? opening close (c :: rest) = none := by
  rw [stripEnds?, if_neg h]

/-- Texts with a text in front of the first of them. -/
def attach (lead : List Char) : List (List Char) → List (List Char)
  | [] => [lead]
  | text :: rest => (lead ++ text) :: rest

/-- What is put in front twice is put in front together. -/
theorem attach_attach (lead next : List Char) (texts : List (List Char)) :
    attach lead (attach next texts) = attach (lead ++ next) texts := by
  cases texts with
  | nil => rfl
  | cons text rest => rw [attach, attach, attach, List.append_assoc]

/-- A character that is no comma outside quotes stands in front of what follows it. -/
theorem elements_cons {quote : Option Char} {c : Char} (h : ¬(c = ',' ∧ quote = none))
    (rest : List Char) :
    elements quote (c :: rest) = attach [c] (elements (quoteAfter quote c) rest) := by
  rw [elements, if_neg h]
  cases elements (quoteAfter quote c) rest <;> rfl

/-- Inside quotes nothing is split, up to the quote that closes. -/
theorem elements_quoted {quote : Char} {inner : List Char} (h : quote ∉ inner)
    (rest : List Char) :
    elements (some quote) (inner ++ quote :: rest) =
      attach (inner ++ [quote]) (elements none rest) := by
  induction inner with
  | nil =>
    rw [List.nil_append, elements_cons (by simp), quoteAfter, if_pos rfl]
    rfl
  | cons c inner ih =>
    have hc : c ≠ quote := fun hc => h (by simp [hc])
    have hinner : quote ∉ inner := fun hin => h (by simp [hin])
    rw [List.cons_append, elements_cons (by simp), quoteAfter, if_neg hc, ih hinner, attach_attach]
    rfl

/-- There is a bracket in the lower case of a text when there is one in the text. -/
theorem mem_lower_of_bracket {b : Char} {text : List Char} (hb : b = '[' ∨ b = ']')
    (h : b ∈ text) : b ∈ Text.lower text := by
  have hlower : b.toLower = b := by rcases hb with rfl | rfl <;> rfl
  rw [← hlower]
  exact List.mem_map_of_mem h

/-- There is no bracket in a keyword. -/
theorem keyword?_of_bracket {b : Char} {text : List Char} (hb : b = '[' ∨ b = ']')
    (h : b ∈ text) : keyword? text = none := by
  have hlower := mem_lower_of_bracket hb h
  rw [keyword?]
  split
  case h_4 => rfl
  all_goals
    rename_i hword
    rw [← String.toList_inj, String.toList_ofList] at hword
    rw [hword] at hlower
    rcases hb with rfl | rfl <;> exact absurd hlower (by decide)

section Values

variable {context : ParseContext} {quote : Char}

/-- A quote is no blank, so a quoted text has firm ends. -/
theorem enquoted_firm (hquote : quote = '\'' ∨ quote = '"') (text : String) :
    HasFirmEnds (enquoted quote text) := by
  rcases hquote with rfl | rfl <;> exact .enclosed rfl rfl text.toList

/-- A quoted text that is no placeholder is read as itself, whatever else is in it. -/
theorem parseValue_enquoted (hquote : quote = '\'' ∨ quote = '"') {text : String}
    (htext : ¬IsPlaceholder text) :
    parseValue context (enquoted quote text) = .ok (.string text) := by
  have hplaceholder : placeholder? (enquoted quote text) = none := by
    rcases hquote with rfl | rfl <;> exact stripEnds?_of_ne (by decide) _ _
  have hunquoted : unquoted? (enquoted quote text) = some text.toList := by
    rcases hquote with rfl | rfl
    · rw [unquoted?, enquoted, stripEnds?_enclosed, List.cons_append,
        stripEnds?_of_ne (by decide)]
    · rw [unquoted?, enquoted, stripEnds?_enclosed]
  rw [parseValue, (enquoted_firm hquote text).trim_self]
  simp only [hplaceholder, hunquoted, placeholder?_eq_none htext, String.ofList_toList]

/-- A text that is no placeholder, no keyword, in no quotes and in no brackets is read as a number
or as itself. -/
theorem parseValue_plain {text : List Char} (hfirm : HasFirmEnds text)
    (hplaceholder : placeholder? text = none) (hunquoted : unquoted? text = none)
    (hkeyword : keyword? text = none) (hbrackets : stripEnds? '[' ']' text = none) :
    parseValue context text = .ok (plainValue text) := by
  rw [parseValue, hfirm.trim_self]
  simp only [hplaceholder, hunquoted, hkeyword]
  split
  · rename_i inner hinner
    rw [hbrackets] at hinner
    cases hinner
  · rfl

/-- A quoted text without its quote inside is one element, with what stands behind it. -/
theorem elements_enquoted (hquote : quote = '\'' ∨ quote = '"') {text : String}
    (htext : quote ∉ text.toList) (rest : List Char) :
    elements none (enquoted quote text ++ rest) =
      attach (enquoted quote text) (elements none rest) := by
  have hopen : quoteAfter none quote = some quote := by
    rw [quoteAfter, if_pos hquote.symm]
  have hcomma : ¬(quote = ',' ∧ (none : Option Char) = none) := by
    rcases hquote with rfl | rfl <;> simp
  rw [enquoted, List.cons_append, List.cons_append, elements_cons hcomma, hopen,
    List.append_assoc, List.singleton_append, elements_quoted htext, attach_attach]
  rfl

/-- The elements of a printed list are its quoted texts, from the second on with a blank in
front. -/
theorem elements_commaSeparated (hquote : quote = '\'' ∨ quote = '"') {text : String}
    {rest : List String} (h : ∀ t ∈ text :: rest, quote ∉ t.toList) :
    elements none (commaSeparated ((text :: rest).map (enquoted quote))) =
      enquoted quote text :: rest.map fun t => ' ' :: enquoted quote t := by
  induction rest generalizing text with
  | nil =>
    have hlast := elements_enquoted hquote (h text (by simp)) []
    rw [List.append_nil] at hlast
    simpa [commaSeparated, elements, attach] using hlast
  | cons next rest ih =>
    rw [List.map_cons, List.map_cons, commaSeparated,
      elements_enquoted hquote (h text (by simp)), ← List.map_cons]
    rw [elements, if_pos (by simp), elements_cons (by simp)]
    rw [show quoteAfter none ' ' = none from rfl, ih fun t ht => h t (by simp [ht])]
    simp [attach]

/-- An element that is a quoted text among blanks is read as the text. -/
theorem parseElements_enquoted (hquote : quote = '\'' ∨ quote = '"') {text : String}
    (htext : ¬IsPlaceholder text) {lead : List Char}
    (hlead : ∀ c ∈ lead, Text.isBlank c = true) {rest : List (List Char)} {values : List Value}
    (hrest : parseElements context rest = .ok values) :
    parseElements context ((lead ++ enquoted quote text) :: rest) =
      .ok (.string text :: values) := by
  have htrim : Text.trim (lead ++ enquoted quote text) = enquoted quote text := by
    simpa using (enquoted_firm hquote text).trim_padded hlead noBlanks
  rw [parseElements, htrim, parseValue_enquoted hquote htext, hrest]
  rfl

/-- Quoted texts behind blanks are read as the texts, in order. -/
theorem parseElements_spaced (hquote : quote = '\'' ∨ quote = '"') {texts : List String}
    (h : ∀ t ∈ texts, ¬IsPlaceholder t) :
    parseElements context (texts.map fun t => ' ' :: enquoted quote t) =
      .ok (texts.map .string) := by
  induction texts with
  | nil =>
    rw [List.map_nil, parseElements]
    rfl
  | cons text rest ih =>
    exact parseElements_enquoted hquote (h text (by simp)) oneBlank
      (ih fun t ht => h t (by simp [ht]))

/-- A text in square brackets is read as its elements. -/
theorem parseValue_bracketed (inner : List Char) :
    parseValue context ('[' :: inner ++ [']']) =
      (parseElements context (elements none inner)).map .array := by
  have hfirm : HasFirmEnds ('[' :: inner ++ [']']) := .enclosed rfl rfl inner
  have hplaceholder : placeholder? ('[' :: inner ++ [']']) = none :=
    stripEnds?_of_ne (by decide) _ _
  have hunquoted : unquoted? ('[' :: inner ++ [']']) = none := by
    rw [unquoted?, List.cons_append, stripEnds?_of_ne (by decide), stripEnds?_of_ne (by decide)]
  have hkeyword : keyword? ('[' :: inner ++ [']']) = none :=
    keyword?_of_bracket (.inl rfl) (List.mem_cons_self ..)
  have hinner : stripEnds? '[' ']' ('[' :: inner ++ [']']) = some inner :=
    stripEnds?_enclosed _ _ _
  rw [parseValue, hfirm.trim_self]
  simp only [hplaceholder, hunquoted, hkeyword]
  split
  · rename_i found hfound
    rw [hinner] at hfound
    obtain rfl := Option.some.inj hfound
    cases parseElements context (elements none inner) <;> rfl
  · simp_all

/-- A printed list is read as its texts, in order and without loss. -/
theorem parseValue_enquotedList (hquote : quote = '\'' ∨ quote = '"') {texts : List String}
    (h : ∀ t ∈ texts, quote ∉ t.toList ∧ ¬IsPlaceholder t) :
    parseValue context (enquotedList quote texts) = .ok (.array (texts.map .string)) := by
  have hitems : parseElements context
      (elements none (commaSeparated (texts.map (enquoted quote)))) =
        .ok (texts.map .string) := by
    cases texts with
    | nil =>
      rw [List.map_nil, commaSeparated, elements, parseElements,
        if_pos (show (Text.trim []).isEmpty = true from rfl), parseElements]
      rfl
    | cons text rest =>
      rw [elements_commaSeparated hquote fun t ht => (h t ht).1]
      exact parseElements_enquoted hquote (h text (by simp)).2 noBlanks
        (parseElements_spaced hquote fun t ht => (h t (by simp [ht])).2)
  rw [enquotedList, parseValue_bracketed, hitems]
  rfl

end Values

/-! ### Reading a printed condition -/

section Reading

variable {context : ParseContext} {field : String}

/-- What a readable text says: a field alone, or a field, an operator and the text of a value.
All three are found without the context. -/
theorem parseCondition_inv {text : String} {condition : Condition}
    (h : parseCondition context text = .ok condition) :
    match splitOperator? (Text.trim text.toList) with
    | none => condition = .bare (.path (String.ofList (Text.trim text.toList)))
    | some (before, operator, after) =>
      ∃ value, parseValue context (Text.trim after) = .ok value ∧
        condition = ⟨some (.path (String.ofList (Text.trim before))),
          some (operator, .ofValue value)⟩ := by
  rw [parseCondition] at h
  split at h
  · cases h
  · rw [parseTrimmed] at h
    cases hsplit : splitOperator? (Text.trim text.toList) with
    | none =>
      rw [hsplit] at h
      dsimp only at h ⊢
      split at h
      · cases h
      · cases h
        rfl
    | some parts =>
      obtain ⟨before, operator, after⟩ := parts
      rw [hsplit] at h
      dsimp only at h ⊢
      split at h
      · cases h
      · split at h
        · cases h
        · split at h
          · rename_i value hvalue
            rw [Condition.compare] at h
            split at h
            · cases h
              exact ⟨value, hvalue, rfl⟩
            · cases h
          · cases h

/-- A text that is taken apart into a field, an operator and the text of a value is read as
these, whatever blanks stand between them. -/
theorem parseCondition_of_split {text before after value : List Char} {operator : Operator}
    (hsplit : splitOperator? text = some (field.toList ++ before, operator, after ++ value))
    (htext : HasFirmEnds text) (hfield : HasFirmEnds field.toList) (hvalue : HasFirmEnds value)
    (hbefore : ∀ c ∈ before, Text.isBlank c = true)
    (hafter : ∀ c ∈ after, Text.isBlank c = true) :
    parseCondition context (String.ofList text) =
      match parseValue context value with
      | .ok found => Condition.compare (.path field) operator (.ofValue found)
      | .error error => .error error := by
  have htrimField : Text.trim (field.toList ++ before) = field.toList := by
    simpa using hfield.trim_padded noBlanks hbefore
  have htrimValue : Text.trim (after ++ value) = value := by
    simpa using hvalue.trim_padded hafter noBlanks
  obtain ⟨first, tail, hfirst, -⟩ := htext.first
  obtain ⟨c, rest, hc, -⟩ := hfield.first
  obtain ⟨d, back, hd, -⟩ := hvalue.first
  have hfieldFull : field.toList.isEmpty = false := by simp [hc]
  have hvalueFull : value.isEmpty = false := by simp [hd]
  rw [parseCondition, String.toList_ofList, htext.trim_self, if_neg (by simp [hfirst]),
    parseTrimmed, hsplit]
  cases hfound : parseValue context value <;>
    simp only [htrimField, htrimValue, hfieldFull, hvalueFull, hfound, String.ofList_toList,
      Bool.false_eq_true, if_false]

/-- A printed condition is read as its field, its operator and the value its printed value is
read as. -/
theorem parseCondition_of_printed (hne : field ≠ "") (hfield : ∀ c ∈ field.toList, IsFieldChar c)
    (operator : Operator) {value : List Char} (hvalue : HasFirmEnds value) :
    parseCondition context (printedCondition field operator value) =
      match parseValue context value with
      | .ok found => Condition.compare (.path field) operator (.ofValue found)
      | .error error => .error error := by
  have hfieldEnds : HasFirmEnds field.toList :=
    .field (fun h => hne (String.toList_eq_nil_iff.1 h)) hfield
  have htext : printedCondition field operator value =
      String.ofList (field.toList ++ ' ' :: operator.sql.toList ++ ' ' :: value) := by
    simp [printedCondition, ← String.toList_inj, String.toList_append]
  obtain ⟨before, after, hsplit, hbefore, hafter⟩ :=
    splitOperator?_printed hfield operator value
  have hends := hfieldEnds.between hvalue (' ' :: operator.sql.toList ++ [' '])
  rw [htext]
  exact parseCondition_of_split hsplit (by simpa using hends) hfieldEnds hvalue hbefore hafter

/-- Reading a printed condition gives the condition back. With a field without blanks and
comparison symbols, a quoted text is read as the text, whatever operators, commas, brackets
and quotes are in it, unless it is a placeholder. With an operator that accepts lists, quoted
texts in brackets are read as these texts, in order, if the quote occurs in none of them and
none is a placeholder. -/
theorem parseCondition_printed (context : ParseContext) (field : String) (hne : field ≠ "")
    (hfield : ∀ c ∈ field.toList, IsFieldChar c) (operator : Operator) (quote : Char)
    (hquote : quote = '\'' ∨ quote = '"') :
    (∀ text : String, ¬IsPlaceholder text →
      parseCondition context (printedCondition field operator (enquoted quote text)) =
        .ok ⟨some (.path field), some (operator, .scalar (.string text))⟩) ∧
    (operator.acceptsList = true → ∀ texts : List String,
      (∀ text ∈ texts, quote ∉ text.toList ∧ ¬IsPlaceholder text) →
      parseCondition context (printedCondition field operator (enquotedList quote texts)) =
        .ok ⟨some (.path field), some (operator, .list (texts.map .string))⟩) := by
  refine ⟨fun text htext => ?_, fun haccepts texts htexts => ?_⟩
  · rw [parseCondition_of_printed hne hfield operator (enquoted_firm hquote text),
      parseValue_enquoted hquote htext]
    rfl
  · have hfirm : HasFirmEnds (enquotedList quote texts) := .enclosed rfl rfl _
    have hflat : (texts.map Value.string).any Comparand.isNested = false := by
      simp [Comparand.isNested]
    rw [parseCondition_of_printed hne hfield operator hfirm,
      parseValue_enquotedList hquote htexts]
    simp [Comparand.ofValue, Condition.compare, Comparand.check, haccepts, hflat]

/-- A text with operators, brackets, commas and the quote itself in it, and a list of a text
with a comma, the empty text and a text with a bracket and the other quote. -/
theorem parseCondition_printed_labels :
    parseCondition [] "label like 'a = 'b' in [c], d'" =
      .ok ⟨some (.path "label"), some (.like, .scalar (.string "a = 'b' in [c], d"))⟩ ∧
    parseCondition [] "label not in ['a, b', '', '] > \"c']" =
      .ok ⟨some (.path "label"),
        some (.notIn, .list [.string "a, b", .string "", .string "] > \"c"])⟩ := by
  have hfield : ∀ c ∈ "label".toList, IsFieldChar c := by
    simp [IsFieldChar, Text.isBlank]
  refine ⟨(parseCondition_printed [] "label" (by simp) hfield .like '\'' (.inl rfl)).1
      "a = 'b' in [c], d" ?_,
    (parseCondition_printed [] "label" (by simp) hfield .notIn '\'' (.inl rfl)).2 rfl
      ["a, b", "", "] > \"c"] ?_⟩
  · rintro ⟨name, hname⟩
    simp at hname
  · simp [IsPlaceholder]

end Reading

end ScopeQuery
