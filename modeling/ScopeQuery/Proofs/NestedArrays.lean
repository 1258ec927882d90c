import ScopeQuery.Proofs.PrintedConditions

/-!
# Arrays in arrays

The text of an array is split at the commas outside quotes, whatever brackets stand around them.
So an array among its elements arrives whole only where no comma stands between its brackets, and
then it is refused. One with a comma is torn: its brackets stay at the first and the last of its
scalars, which are read as texts, and the list is flat.
-/

namespace ScopeQuery

/-! ### Splitting -/

/-- Texts with a comma between neighbours. -/
def commaJoined : List (List Char) → List Char
  | [] => []
  | [text] => text
  | text :: next :: rest => text ++ ',' :: commaJoined (next :: rest)

/-- What is joined from two lists of texts. -/
theorem commaJoined_append {texts others : List (List Char)} (h : texts ≠ [])
    (hothers : others ≠ []) :
    commaJoined (texts ++ others) = commaJoined texts ++ ',' :: commaJoined others := by
  induction texts with
  | nil => exact absurd rfl h
  | cons text texts ih =>
    cases texts with
    | nil =>
      cases others with
      | nil => exact absurd rfl hothers
      | cons other others => rfl
    | cons next texts =>
      have hrest := ih (by simp)
      rw [List.cons_append] at hrest
      rw [List.cons_append, List.cons_append, commaJoined, commaJoined, hrest, List.append_assoc,
        List.cons_append]

/-- What stands in front of the first text stands in front of all. -/
theorem commaJoined_lead (lead text : List Char) (rest : List (List Char)) :
    commaJoined ((lead ++ text) :: rest) = lead ++ commaJoined (text :: rest) := by
  cases rest with
  | nil => rfl
  | cons next rest => rw [commaJoined, commaJoined, List.append_assoc]

/-- What stands behind the last text stands behind all. -/
theorem commaJoined_behind (texts : List (List Char)) (text behind : List Char) :
    commaJoined (texts ++ [text ++ behind]) = commaJoined (texts ++ [text]) ++ behind := by
  cases texts with
  | nil => rfl
  | cons first rest =>
    rw [commaJoined_append (by simp) (by simp), commaJoined_append (by simp) (by simp),
      List.append_assoc]
    rfl

/-- There is always an element. -/
theorem elements_ne_nil (quote : Option Char) (rest : List Char) : elements quote rest ≠ [] := by
  intro hnil
  have hsize := textsSize_elements quote rest
  rw [hnil] at hsize
  cases hsize

/-- Whether a text is never split, whatever stands behind it: its commas stand in quotes, and its
quotes are closed. -/
def IsUnsplit (text : List Char) : Prop :=
  ∀ rest, elements none (text ++ rest) = attach text (elements none rest)

namespace IsUnsplit

variable {text next : List Char}

/-- Two such texts are one together. -/
theorem append (h : IsUnsplit text) (hnext : IsUnsplit next) : IsUnsplit (text ++ next) := by
  intro rest
  rw [List.append_assoc, h, hnext, attach_attach]

/-- A text without quotes and commas is never split. -/
theorem of_plain (h : ∀ c ∈ text, c ≠ '"' ∧ c ≠ '\'' ∧ c ≠ ',') : IsUnsplit text := by
  intro rest
  induction text with
  | nil =>
    cases hrest : elements none rest with
    | nil => exact absurd hrest (elements_ne_nil none rest)
    | cons element others =>
      rw [List.nil_append, hrest]
      rfl
  | cons c text ih =>
    obtain ⟨hdouble, hsingle, hcomma⟩ := h c (by simp)
    have hquote : quoteAfter none c = none := if_neg (by simp [hdouble, hsingle])
    rw [List.cons_append, elements_cons (by simp [hcomma]), hquote,
      ih fun d hd => h d (by simp [hd]), attach_attach]
    rfl

/-- Blanks are never split. -/
theorem of_blanks (h : ∀ c ∈ text, Text.isBlank c = true) : IsUnsplit text := by
  refine of_plain fun c hc => ⟨?_, ?_, ?_⟩
  all_goals
    rintro rfl
    exact absurd (h _ hc) (by decide)

/-- With nothing behind it, such a text is the only element. -/
theorem elements_self (h : IsUnsplit text) : elements none text = [text] := by
  have hend := h []
  rw [List.append_nil] at hend
  rw [hend, elements, attach, List.append_nil]

/-- Such texts with commas between them are split into these texts. -/
theorem elements_commaJoined {texts : List (List Char)} (hne : texts ≠ [])
    (h : ∀ t ∈ texts, IsUnsplit t) : elements none (commaJoined texts) = texts := by
  induction texts with
  | nil => exact absurd rfl hne
  | cons text rest ih =>
    cases rest with
    | nil => exact (h text (by simp)).elements_self
    | cons next rest =>
      rw [commaJoined, h text (by simp), elements, if_pos (by simp),
        ih (by simp) fun t ht => h t (List.mem_cons_of_mem _ ht), attach, List.append_nil]

end IsUnsplit

/-! ### Scalars and arrays of scalars -/

/-- Whether a text is written as a scalar is: between two quotes of which it has no other, or
without quotes, commas and square brackets. -/
inductive IsScalarText : List Char → Prop where
  /-- A text in quotes. -/
  | quoted {quote : Char} {inner : List Char} (hquote : quote = '\'' ∨ quote = '"')
      (hinner : quote ∉ inner) : IsScalarText (quote :: inner ++ [quote])
  /-- A text without quotes. -/
  | plain {text : List Char} (hfirm : HasFirmEnds text)
      (hplain : ∀ c ∈ text, c ∉ ['"', '\'', ',', '[', ']']) : IsScalarText text

namespace IsScalarText

variable {text : List Char}

/-- A scalar is never split. -/
theorem unsplit (h : IsScalarText text) : IsUnsplit text := by
  cases h with
  | @quoted quote inner hquote hinner =>
    intro rest
    have hclosed : quote ∉ (String.ofList inner).toList := by simpa using hinner
    have hone := elements_enquoted hquote hclosed rest
    simpa [enquoted] using hone
  | plain _ hplain =>
    refine .of_plain fun c hc => ?_
    have hmarks := hplain c hc
    simp only [List.mem_cons, not_or] at hmarks
    exact ⟨hmarks.1, hmarks.2.1, hmarks.2.2.1⟩

/-- A scalar begins with no blank and no bracket. -/
theorem first (h : IsScalarText text) :
    ∃ c rest, text = c :: rest ∧ Text.isBlank c = false ∧ c ≠ '[' := by
  cases h with
  | @quoted quote inner hquote hinner =>
    refine ⟨quote, inner ++ [quote], rfl, ?_⟩
    rcases hquote with rfl | rfl <;> decide
  | plain hfirm hplain =>
    obtain ⟨c, rest, rfl, hc⟩ := hfirm.first
    exact ⟨c, rest, rfl, hc, fun hmark => hplain c (by simp) (by simp [hmark])⟩

/-- A scalar ends with no blank and no bracket. -/
theorem last (h : IsScalarText text) :
    ∃ rest c, text = rest ++ [c] ∧ Text.isBlank c = false ∧ c ≠ ']' := by
  cases h with
  | @quoted quote inner hquote hinner =>
    refine ⟨quote :: inner, quote, rfl, ?_⟩
    rcases hquote with rfl | rfl <;> decide
  | plain hfirm hplain =>
    obtain ⟨rest, c, rfl, hc⟩ := hfirm.last
    exact ⟨rest, c, rfl, hc, fun hmark => hplain c (by simp) (by simp [hmark])⟩

/-- A scalar has firm ends. -/
theorem firm (h : IsScalarText text) : HasFirmEnds text := by
  obtain ⟨c, rest, hfirst, hc, -⟩ := h.first
  obtain ⟨front, d, hlast, hd, -⟩ := h.last
  exact ⟨⟨c, rest, hfirst, hc⟩, ⟨front, d, hlast, hd⟩⟩

end IsScalarText

/-- What stands between two commas of an array: a scalar among blanks, or blanks alone, with the
values it is read as. -/
structure ArrayElement (context : ParseContext) where
  /-- The text. -/
  text : List Char
  /-- Its value, and none of blanks. -/
  values : List Value
  /-- It is written as a scalar, but for blanks, or blank. -/
  written : Text.trim text = [] ∨ IsScalarText (Text.trim text)
  /-- It is read as its values. -/
  reads : parseElements context [text] = .ok values
  /-- None of them is an array or an object. -/
  scalar : values.any Comparand.isNested = false

/-- Blanks. -/
abbrev Blanks := { text : List Char // ∀ c ∈ text, Text.isBlank c = true }

/-- An element of an array that may hold arrays of scalars. -/
inductive ArrayItem (context : ParseContext) where
  /-- A scalar. -/
  | scalar (element : ArrayElement context)
  /-- An array without a comma outside quotes, so of one scalar or none, among blanks. -/
  | lone (before : Blanks) (element : ArrayElement context) (after : Blanks)
  /-- An array with commas, so of several scalars, among blanks. -/
  | several (before : Blanks) (first : ArrayElement context) (middle : List (ArrayElement context))
      (last : ArrayElement context) (after : Blanks)

/-! ### Texts with a bracket -/

section Bracket

variable {b : Char} {text : List Char}

/-- A bracket is no digit, so it is in what follows the digits. -/
theorem mem_spanDigits (hb : b = '[' ∨ b = ']') (h : b ∈ text) : b ∈ (spanDigits text).2 := by
  have hdigit : digitValue? b = none := by rcases hb with rfl | rfl <;> rfl
  induction text with
  | nil => exact h
  | cons c text ih =>
    rw [spanDigits]
    cases hc : digitValue? c with
    | none => exact h
    | some d =>
      refine ih (Or.resolve_left (List.mem_cons.1 h) ?_)
      rintro rfl
      rw [hdigit] at hc
      cases hc

/-- A bracket is no sign, so it is in what follows the sign. -/
theorem mem_spanSign (hb : b = '[' ∨ b = ']') (h : b ∈ text) : b ∈ (spanSign text).2 := by
  rw [spanSign.eq_def]
  split
  case h_3 => exact h
  all_goals
    refine Or.resolve_left (List.mem_cons.1 h) ?_
    rcases hb with rfl | rfl <;> decide

/-- There is no bracket in an exponent. -/
theorem exponentPart?_of_bracket (hb : b = '[' ∨ b = ']') (h : b ∈ text) :
    exponentPart? text = none := by
  cases text with
  | nil => cases h
  | cons c text =>
    rw [exponentPart?]
    split
    · rename_i hletter
      have hrest : b ∈ text := by
        refine Or.resolve_left (List.mem_cons.1 h) ?_
        rintro rfl
        rcases hb with rfl | rfl <;> simp at hletter
      have hbehind := mem_spanDigits hb (mem_spanSign hb hrest)
      dsimp only
      split
      · rfl
      · rename_i hend
        rw [hend] at hbehind
        cases hbehind
      · rfl
    · rfl

/-- There is no bracket in a decimal. -/
theorem unsignedDecimal?_of_bracket (hb : b = '[' ∨ b = ']') (h : b ∈ text) :
    unsignedDecimal? text = none := by
  have hrest := mem_spanDigits hb h
  rw [unsignedDecimal?.eq_def]
  dsimp only
  generalize (spanDigits text).2 = rest at hrest
  split
  · rename_i fraction
    have hfraction : b ∈ fraction := by
      refine Or.resolve_left (List.mem_cons.1 hrest) ?_
      rcases hb with rfl | rfl <;> decide
    rw [exponentPart?_of_bracket hb (mem_spanDigits hb hfraction)]
    exact ite_self none
  · rw [exponentPart?_of_bracket hb hrest]
    exact ite_self none

/-- There is no bracket in a numeral. -/
theorem Number.ofText?_of_bracket (hb : b = '[' ∨ b = ']') (h : b ∈ text) :
    Number.ofText? text = none := by
  have hbody := mem_spanSign hb h
  rw [ofText?]
  dsimp only
  rw [unsignedDecimal?_of_bracket hb hbody]
  have hlower := mem_lower_of_bracket hb hbody
  dsimp only
  split
  case h_4 => rfl
  all_goals
    rename_i hword
    rw [← String.toList_inj, String.toList_ofList] at hword
    rw [hword] at hlower
    rcases hb with rfl | rfl <;> exact absurd hlower (by decide)

end Bracket

namespace ArrayItem

variable {context : ParseContext}

/-- Whether the element is an array without a comma outside quotes. -/
def IsLone : ArrayItem context → Prop
  | .lone _ _ _ => True
  | _ => False

/-- The text of an element. -/
def text : ArrayItem context → List Char
  | .scalar element => element.text
  | .lone before element after => before.1 ++ '[' :: element.text ++ ']' :: after.1
  | .several before first middle last after =>
    before.1 ++ '[' :: commaJoined (first.text :: middle.map (·.text) ++ [last.text]) ++
      ']' :: after.1

/-- The texts that are left of an element when its array is split. -/
def pieces : ArrayItem context → List (List Char)
  | .scalar element => [element.text]
  | .lone before element after => [before.1 ++ '[' :: element.text ++ ']' :: after.1]
  | .several before first middle last after =>
    (before.1 ++ '[' :: first.text) :: middle.map (·.text) ++ [last.text ++ ']' :: after.1]

/-- The values an element is read as. Of an array with a comma the first and the last scalar are
texts with a bracket. -/
def values : ArrayItem context → List Value
  | .scalar element => element.values
  | .lone _ element _ => [.array element.values]
  | .several _ first middle last _ =>
    .string (String.ofList (Text.trim ('[' :: first.text))) :: middle.flatMap (·.values) ++
      [.string (String.ofList (Text.trim (last.text ++ [']'])))]

/-- A split element is its pieces with commas between them. -/
theorem commaJoined_pieces (item : ArrayItem context) : commaJoined item.pieces = item.text := by
  cases item with
  | scalar element => rfl
  | lone before element after => rfl
  | several before first middle last after =>
    rw [pieces, text, commaJoined_behind, List.append_cons before.1, List.cons_append,
      commaJoined_lead, ← List.append_cons, ← List.cons_append]

end ArrayItem

/-! ### Reading -/

section Reading

variable {context : ParseContext}

/-- A text that only begins with a bracket is read as itself. -/
theorem parseValue_opened {body : List Char} (hfirm : HasFirmEnds ('[' :: body))
    (hopen : ∀ inner, body ≠ inner ++ [']']) :
    parseValue context ('[' :: body) = .ok (.string (String.ofList ('[' :: body))) := by
  have hunquoted : unquoted? ('[' :: body) = none := by
    rw [unquoted?, stripEnds?_of_ne (by decide), stripEnds?_of_ne (by decide)]
  have hbrackets : stripEnds? '[' ']' ('[' :: body) = none := by
    rw [stripEnds?, if_pos rfl]
    cases hinner : stripLast? ']' body with
    | none => rfl
    | some inner => exact absurd (stripLast?_append hinner) (hopen inner)
  have hmem : '[' ∈ '[' :: body := by simp
  rw [parseValue_plain hfirm (stripEnds?_of_ne (by decide) _ _) hunquoted
      (keyword?_of_bracket (.inl rfl) hmem) hbrackets,
    plainValue, Number.ofText?_of_bracket (.inl rfl) hmem]

/-- Nothing is stripped from a text that ends otherwise. -/
theorem stripEnds?_of_last_ne {opening close c : Char} (h : c ≠ close) (text : List Char) :
    stripEnds? opening close (text ++ [c]) = none := by
  cases hinner : stripEnds? opening close (text ++ [c]) with
  | none => rfl
  | some inner =>
    have hends := stripEnds?_append hinner
    exact absurd (List.append_inj_right' hends rfl) (by simpa using h)

/-- A text that only ends with a bracket is read as itself. -/
theorem parseValue_closed {body : List Char} (hfirm : HasFirmEnds (body ++ [']']))
    (hclosed : ∀ rest, body ≠ '[' :: rest) :
    parseValue context (body ++ [']']) = .ok (.string (String.ofList (body ++ [']']))) := by
  have hunquoted : unquoted? (body ++ [']']) = none := by
    rw [unquoted?, stripEnds?_of_last_ne (by decide), stripEnds?_of_last_ne (by decide)]
  have hbrackets : stripEnds? '[' ']' (body ++ [']']) = none := by
    cases body with
    | nil => rfl
    | cons c rest => exact stripEnds?_of_ne (fun hc => hclosed rest (by rw [hc])) _ _
  have hmem : ']' ∈ body ++ [']'] := by simp
  rw [parseValue_plain hfirm (stripEnds?_of_last_ne (by decide) _) hunquoted
      (keyword?_of_bracket (.inr rfl) hmem) hbrackets,
    plainValue, Number.ofText?_of_bracket (.inr rfl) hmem]

/-- The values of two lists of elements, one after the other. -/
theorem parseElements_append {texts others : List (List Char)} {values following : List Value}
    (h : parseElements context texts = .ok values)
    (hothers : parseElements context others = .ok following) :
    parseElements context (texts ++ others) = .ok (values ++ following) := by
  induction texts generalizing values with
  | nil =>
    rw [parseElements] at h
    cases h
    exact hothers
  | cons text texts ih =>
    rw [parseElements] at h
    rw [List.cons_append, parseElements]
    split at h
    · rename_i hblank
      rw [if_pos hblank]
      exact ih h
    · rename_i hsolid
      rw [if_neg hsolid]
      split at h
      · cases h
      · split at h
        · rename_i hrest
          cases h
          rw [ih hrest]
          rfl
        · cases h

/-- The value of the only element among blanks. -/
theorem parseElements_padded {core : List Char} (hfirm : HasFirmEnds core) {value : Value}
    (hvalue : parseValue context core = .ok value) {before after : List Char}
    (hbefore : ∀ c ∈ before, Text.isBlank c = true) (hafter : ∀ c ∈ after, Text.isBlank c = true) :
    parseElements context [before ++ core ++ after] = .ok [value] := by
  obtain ⟨c, rest, hc, -⟩ := hfirm.first
  rw [parseElements, hfirm.trim_padded hbefore hafter, if_neg (by simp [hc]), hvalue,
    parseElements]

/-- A scalar among blanks is an element of an array. -/
def ArrayElement.ofScalar (before : Blanks) {text : List Char} (htext : IsScalarText text)
    {value : Value} (hvalue : parseValue context text = .ok value)
    (hflat : Comparand.isNested value = false) (after : Blanks) : ArrayElement context where
  text := before.1 ++ text ++ after.1
  values := [value]
  written := .inr (by rwa [htext.firm.trim_padded before.2 after.2])
  reads := parseElements_padded htext.firm hvalue before.2 after.2
  scalar := by simpa using hflat

/-- A text in quotes is an element of an array, with blanks in front of it or without. -/
def ArrayElement.ofText (before : Blanks) (text : String) (htext : '"' ∉ text.toList)
    (hplaceholder : ¬IsPlaceholder text) : ArrayElement context :=
  .ofScalar before (.quoted (.inr rfl) htext) (parseValue_enquoted (.inr rfl) hplaceholder) rfl
    ⟨[], noBlanks⟩

/-- Behind an opening bracket an element without the blanks behind it ends with no bracket: what is
left is the bracket alone, or it ends as the scalar does. -/
theorem ArrayElement.opened (element : ArrayElement context) :
    ∃ body behind, element.text = body ++ behind ∧ (∀ c ∈ behind, Text.isBlank c = true) ∧
      HasFirmEnds ('[' :: body) ∧ ∀ inner, body ≠ inner ++ [']'] := by
  obtain ⟨lead, behind, hsplit, hlead, hbehind⟩ := trim_spec element.text
  rcases element.written with hblank | hscalar
  · refine ⟨[], lead ++ behind, ?_, blanks_append hlead hbehind,
      ⟨⟨'[', [], rfl, rfl⟩, ⟨[], '[', rfl, rfl⟩⟩, by simp⟩
    rw [hsplit, hblank]
    simp
  · obtain ⟨rest, c, hlast, hfirm, hne⟩ := hscalar.last
    refine ⟨lead ++ Text.trim element.text, behind, hsplit, hbehind,
      ⟨⟨'[', _, rfl, rfl⟩, ⟨'[' :: lead ++ rest, c, ?_, hfirm⟩⟩, fun inner hinner => ?_⟩
    · rw [hlast]
      simp
    · rw [hlast, ← List.append_assoc] at hinner
      exact hne (by simpa using List.append_inj_right' hinner rfl)

/-- In front of a closing bracket an element without the blanks in front of it begins with no
bracket: what is left is the bracket alone, or it begins as the scalar does. -/
theorem ArrayElement.closed (element : ArrayElement context) :
    ∃ lead body, element.text = lead ++ body ∧ (∀ c ∈ lead, Text.isBlank c = true) ∧
      HasFirmEnds (body ++ [']']) ∧ ∀ rest, body ≠ '[' :: rest := by
  obtain ⟨lead, behind, hsplit, hlead, hbehind⟩ := trim_spec element.text
  rcases element.written with hblank | hscalar
  · refine ⟨lead ++ behind, [], ?_, blanks_append hlead hbehind,
      ⟨⟨']', [], rfl, rfl⟩, ⟨[], ']', rfl, rfl⟩⟩, by simp⟩
    rw [hsplit, hblank]
    simp
  · obtain ⟨c, rest, hfirst, hfirm, hne⟩ := hscalar.first
    refine ⟨lead, Text.trim element.text ++ behind, ?_, hlead,
      ⟨⟨c, rest ++ behind ++ [']'], ?_, hfirm⟩, ⟨_, ']', rfl, rfl⟩⟩, fun inner hinner => ?_⟩
    · rw [← List.append_assoc]
      exact hsplit
    · rw [hfirst]
      simp
    · rw [hfirst] at hinner
      exact hne (List.cons.inj hinner).1

/-- A first scalar of several is read with the bracket in front of it. -/
theorem ArrayElement.parseElements_opened (element : ArrayElement context) {before : List Char}
    (hbefore : ∀ c ∈ before, Text.isBlank c = true) :
    parseElements context [before ++ '[' :: element.text] =
      .ok [.string (String.ofList (Text.trim ('[' :: element.text)))] := by
  obtain ⟨body, behind, htext, hbehind, hfirm, hopen⟩ := element.opened
  have htrim : Text.trim ('[' :: element.text) = '[' :: body := by
    have hpadded := hfirm.trim_padded noBlanks hbehind
    rw [htext]
    simpa using hpadded
  have hvalue : parseValue context ('[' :: body) = .ok (.string (String.ofList ('[' :: body))) :=
    parseValue_opened hfirm hopen
  have hread := parseElements_padded hfirm hvalue hbefore hbehind
  rw [htrim, htext]
  simpa using hread

/-- A last scalar of several is read with the bracket behind it. -/
theorem ArrayElement.parseElements_closed (element : ArrayElement context) {after : List Char}
    (hafter : ∀ c ∈ after, Text.isBlank c = true) :
    parseElements context [element.text ++ ']' :: after] =
      .ok [.string (String.ofList (Text.trim (element.text ++ [']'])))] := by
  obtain ⟨lead, body, htext, hlead, hfirm, hclosed⟩ := element.closed
  have htrim : Text.trim (element.text ++ [']']) = body ++ [']'] := by
    have hpadded := hfirm.trim_padded hlead noBlanks
    rw [htext]
    simpa using hpadded
  have hvalue : parseValue context (body ++ [']']) =
      .ok (.string (String.ofList (body ++ [']']))) :=
    parseValue_closed hfirm hclosed
  have hread := parseElements_padded hfirm hvalue hlead hafter
  rw [htrim, htext]
  simpa using hread

/-- An element is never split. -/
theorem ArrayElement.unsplit (element : ArrayElement context) : IsUnsplit element.text := by
  obtain ⟨lead, behind, hsplit, hlead, hbehind⟩ := trim_spec element.text
  rw [hsplit]
  refine ((IsUnsplit.of_blanks hlead).append ?_).append (.of_blanks hbehind)
  rcases element.written with hblank | hscalar
  · rw [hblank]
    exact .of_blanks noBlanks
  · exact hscalar.unsplit

/-- An array without a comma is read as the array of its scalar. -/
theorem ArrayElement.parseElements_enclosed (element : ArrayElement context)
    {before after : List Char} (hbefore : ∀ c ∈ before, Text.isBlank c = true)
    (hafter : ∀ c ∈ after, Text.isBlank c = true) :
    parseElements context [before ++ '[' :: element.text ++ ']' :: after] =
      .ok [.array element.values] := by
  have hvalue : parseValue context ('[' :: element.text ++ [']']) =
      .ok (.array element.values) := by
    rw [parseValue_bracketed, element.unsplit.elements_self, element.reads]
    rfl
  have hread := parseElements_padded (.enclosed rfl rfl _) hvalue hbefore hafter
  simpa using hread

/-- Elements are read as their values. -/
theorem parseElements_elements (list : List (ArrayElement context)) :
    parseElements context (list.map (·.text)) = .ok (list.flatMap (·.values)) := by
  induction list with
  | nil =>
    rw [List.map_nil, parseElements]
    rfl
  | cons element list ih => exact parseElements_append element.reads ih

end Reading

namespace ArrayItem

variable {context : ParseContext}

/-- There are pieces, and none is split. -/
theorem pieces_unsplit (item : ArrayItem context) : ∀ piece ∈ item.pieces, IsUnsplit piece := by
  have hopen : IsUnsplit ['['] := .of_plain (by simp)
  have hclose : IsUnsplit [']'] := .of_plain (by simp)
  intro piece hpiece
  cases item with
  | scalar element =>
    obtain rfl := List.mem_singleton.1 hpiece
    exact element.unsplit
  | lone before element after =>
    obtain rfl := List.mem_singleton.1 hpiece
    have hwhole := (((IsUnsplit.of_blanks before.2).append hopen).append element.unsplit).append
      (hclose.append (.of_blanks after.2))
    simpa using hwhole
  | several before first middle last after =>
    rcases List.mem_append.1 hpiece with hfront | hlast
    · rcases List.mem_cons.1 hfront with rfl | hmiddle
      · have hfirst := ((IsUnsplit.of_blanks before.2).append hopen).append first.unsplit
        simpa using hfirst
      · obtain ⟨element, -, rfl⟩ := List.mem_map.1 hmiddle
        exact element.unsplit
    · obtain rfl := List.mem_singleton.1 hlast
      exact last.unsplit.append (hclose.append (.of_blanks after.2))

/-- Something is left of every element. -/
theorem pieces_ne_nil (item : ArrayItem context) : item.pieces ≠ [] := by
  cases item <;> simp [pieces]

/-- The pieces of an element are read as its values. -/
theorem parseElements_pieces (item : ArrayItem context) :
    parseElements context item.pieces = .ok item.values := by
  cases item with
  | scalar element => exact element.reads
  | lone before element after => exact element.parseElements_enclosed before.2 after.2
  | several before first middle last after =>
    exact parseElements_append
      (parseElements_append (first.parseElements_opened before.2) (parseElements_elements middle))
      (last.parseElements_closed after.2)

/-- There is an array among the values of an array without a comma only. -/
theorem values_nested (item : ArrayItem context) :
    item.values.any Comparand.isNested = true ↔ item.IsLone := by
  cases item with
  | scalar element =>
    simp [values, IsLone, element.scalar]
  | lone before element after => simp [values, IsLone, Comparand.isNested]
  | several before first middle last after =>
    have hmiddle : (middle.flatMap (·.values)).any Comparand.isNested = false := by
      rw [List.any_flatMap]
      simpa using fun element _ => by simpa using element.scalar
    simp [values, IsLone, Comparand.isNested, hmiddle]

end ArrayItem

/-! ### Array literals -/

section Literals

variable {context : ParseContext}

/-- The text of an array of these elements. -/
def arrayText (items : List (ArrayItem context)) : List Char :=
  '[' :: commaJoined (items.map (·.text)) ++ [']']

/-- An array is split into the pieces of its elements. -/
theorem commaJoined_items (items : List (ArrayItem context)) :
    commaJoined (items.map (·.text)) = commaJoined (items.flatMap (·.pieces)) := by
  induction items with
  | nil => rfl
  | cons item items ih =>
    rw [List.map_cons, List.flatMap_cons]
    cases items with
    | nil =>
      rw [List.map_nil, List.flatMap_nil, List.append_nil, item.commaJoined_pieces]
      rfl
    | cons next items =>
      have hrest : (next :: items).flatMap (·.pieces) ≠ [] := by
        simp [next.pieces_ne_nil]
      rw [commaJoined_append item.pieces_ne_nil hrest, item.commaJoined_pieces, ← ih]
      rfl

/-- The pieces of all elements are read as their values. -/
theorem parseElements_items (items : List (ArrayItem context)) :
    parseElements context (items.flatMap (·.pieces)) = .ok (items.flatMap (·.values)) := by
  induction items with
  | nil =>
    rw [List.flatMap_nil, parseElements]
    rfl
  | cons item items ih => exact parseElements_append item.parseElements_pieces ih

/-- An array is read as the values of its elements, one after the other. -/
theorem parseValue_arrayText (items : List (ArrayItem context)) :
    parseValue context (arrayText items) = .ok (.array (items.flatMap (·.values))) := by
  rw [arrayText, parseValue_bracketed, commaJoined_items]
  have hread := parseElements_items items
  cases items with
  | nil =>
    rw [List.flatMap_nil, commaJoined, elements, parseElements, if_pos (by rfl), parseElements]
    rfl
  | cons item items =>
    have hne : (item :: items).flatMap (·.pieces) ≠ [] := by
      simp [item.pieces_ne_nil]
    have hunsplit : ∀ piece ∈ (item :: items).flatMap (·.pieces), IsUnsplit piece := by
      intro piece hpiece
      obtain ⟨member, -, hmember⟩ := List.mem_flatMap.1 hpiece
      exact member.pieces_unsplit piece hmember
    rw [IsUnsplit.elements_commaJoined hne hunsplit, hread]
    rfl

/-- The values of the elements are flat unless an array without a comma is among them. -/
theorem items_nested (items : List (ArrayItem context)) :
    (items.flatMap (·.values)).any Comparand.isNested = true ↔ ∃ item ∈ items, item.IsLone := by
  rw [List.any_flatMap, List.any_eq_true]
  exact exists_congr fun item => and_congr_right fun _ => item.values_nested

/-- A condition on an array is made from the values of its elements. -/
theorem parseCondition_items {field : String} (hne : field ≠ "")
    (hfield : ∀ c ∈ field.toList, IsFieldChar c) (operator : Operator)
    (items : List (ArrayItem context)) :
    parseCondition context (printedCondition field operator (arrayText items)) =
      Condition.compare (.path field) operator (.list (items.flatMap (·.values))) := by
  have hfirm : HasFirmEnds (arrayText items) := .enclosed rfl rfl _
  rw [parseCondition_of_printed hne hfield operator hfirm, parseValue_arrayText items]
  rfl

/-- A condition on an array, with an operator that accepts lists, is refused exactly when an array
without a comma outside quotes is among the elements. Otherwise it is the condition on a flat list,
in which each inner array is left in pieces: the first scalar as a text with the opening bracket in
front of it, the last one as a text with the closing bracket behind it, and the values of those
between them. -/
theorem parseCondition_arrayText (context : ParseContext) {field : String} (hne : field ≠ "")
    (hfield : ∀ c ∈ field.toList, IsFieldChar c) {operator : Operator}
    (haccepts : operator.acceptsList = true) (items : List (ArrayItem context)) :
    (parseCondition context (printedCondition field operator (arrayText items)) =
        .error (.unfitValue .nestedList) ↔ ∃ item ∈ items, item.IsLone) ∧
    ((∀ item ∈ items, ¬item.IsLone) →
      parseCondition context (printedCondition field operator (arrayText items)) =
        .ok ⟨some (.path field), some (operator, .list (items.flatMap (·.values)))⟩) := by
  rw [parseCondition_items hne hfield operator items, ← items_nested items, Condition.compare,
    Comparand.check, haccepts]
  cases hnested : (items.flatMap (·.values)).any Comparand.isNested with
  | true =>
    obtain ⟨item, hitem, hlone⟩ := (items_nested items).1 hnested
    exact ⟨by simp, fun hnone => absurd hlone (hnone item hitem)⟩
  | false => simp

/-- A pair is refused beside an array of one scalar, and three scalars alone are torn. -/
theorem parseCondition_arrayText_of_pair :
    parseCondition [] "id not in [[\"a\", \"b\"],[\"c\"]]" = .error (.unfitValue .nestedList) ∧
    parseCondition [] "id = [[\"a\", \"b\",\"c\"]]" =
      .ok ⟨some (.path "id"),
        some (.eq, .list [.string "[\"a\"", .string "b", .string "\"c\"]"])⟩ := by
  have hfield : ∀ c ∈ "id".toList, IsFieldChar c := by
    simp [IsFieldChar, Text.isBlank]
  have hnames : ¬IsPlaceholder "a" ∧ ¬IsPlaceholder "b" ∧ ¬IsPlaceholder "c" := by
    simp [IsPlaceholder]
  obtain ⟨ha, hb, hc⟩ := hnames
  constructor
  · refine (parseCondition_arrayText [] (by decide) hfield
      (show Operator.notIn.acceptsList = true from rfl)
      [.several ⟨[], noBlanks⟩ (.ofText ⟨[], noBlanks⟩ "a" (by decide) ha) []
          (.ofText ⟨[' '], oneBlank⟩ "b" (by decide) hb) ⟨[], noBlanks⟩,
        .lone ⟨[], noBlanks⟩ (.ofText ⟨[], noBlanks⟩ "c" (by decide) hc) ⟨[], noBlanks⟩]).1.2 ?_
    exact ⟨_, .tail _ (.head _), trivial⟩
  · refine (parseCondition_arrayText [] (by decide) hfield
      (show Operator.eq.acceptsList = true from rfl)
      [.several ⟨[], noBlanks⟩ (.ofText ⟨[], noBlanks⟩ "a" (by decide) ha)
        [.ofText ⟨[' '], oneBlank⟩ "b" (by decide) hb]
        (.ofText ⟨[], noBlanks⟩ "c" (by decide) hc) ⟨[], noBlanks⟩]).2 ?_
    simp [ArrayItem.IsLone]

/-- A pair beside a third scalar is torn, and the list has its scalars with brackets and quotes. -/
theorem parseCondition_torn_pair :
    parseCondition [] "id in [[\"a\", \"b\"], \"c\"]" =
      .ok ⟨some (.path "id"),
        some (.isIn, .list [.string "[\"a\"", .string "\"b\"]", .string "c"])⟩ := by
  have hfield : ∀ c ∈ "id".toList, IsFieldChar c := by
    simp [IsFieldChar, Text.isBlank]
  have hnames : ¬IsPlaceholder "a" ∧ ¬IsPlaceholder "b" ∧ ¬IsPlaceholder "c" := by
    simp [IsPlaceholder]
  obtain ⟨ha, hb, hc⟩ := hnames
  exact parseCondition_items (by decide) hfield .isIn
    [.several ⟨[], noBlanks⟩ (.ofText ⟨[], noBlanks⟩ "a" (by decide) ha) []
        (.ofText ⟨[' '], oneBlank⟩ "b" (by decide) hb) ⟨[], noBlanks⟩,
      .scalar (.ofText ⟨[' '], oneBlank⟩ "c" (by decide) hc)]

end Literals

end ScopeQuery
