import ScopeQuery.Proofs.OperatorNames
import ScopeQuery.Proofs.PrintedConditions

/-!
# Operator texts

The text of an operator has two readers. By itself it is read by its words, whatever blanks
stand around and between them. In a condition it is looked for as it is spelled: an operator
that is a word has exactly one space between its words and a space on both sides. The two agree
where the operator is spelled like this; elsewhere the condition is about another field, or
there is none.
-/

namespace ScopeQuery

/-! ### The search in a condition text -/

/-- A spelling is found at the front of the text in lower case, and is skipped. -/
theorem afterSpelling?_eq (spelling text : List Char) :
    afterSpelling? spelling text =
      if spelling.isPrefixOf (Text.lower text) then some (text.drop spelling.length) else none := by
  induction spelling generalizing text with
  | nil => simp [afterSpelling?]
  | cons s spelling ih =>
    cases text with
    | nil => simp [afterSpelling?, Text.lower]
    | cons c text =>
      rw [afterSpelling?, ih]
      by_cases hc : c.toLower = s <;> simp [Text.lower, List.isPrefixOf, hc, Ne.symm]

/-- The operator at the front of a text is the first whose spelling stands there. -/
theorem operatorAt?_eq (text : List Char) :
    operatorAt? text =
      (operatorSpellings.find? fun entry => entry.1.isPrefixOf (Text.lower text)).map
        fun entry => (entry.2, text.drop entry.1.length) := by
  rw [operatorAt?]
  generalize operatorSpellings = entries
  induction entries with
  | nil => rfl
  | cons entry entries ih =>
    obtain ⟨spelling, operator⟩ := entry
    rw [List.findSome?_cons, List.find?_cons, ih]
    dsimp only
    rw [afterSpelling?_eq]
    cases spelling.isPrefixOf (Text.lower text) <;> rfl

section Search

variable {body : List Char} {operator : Operator} {b c : Char}

/-- The characters of symbols are no blanks. -/
theorem symbols_ne_blank (hb : Text.isBlank b = true) : '=' ≠ b ∧ '!' ≠ b ∧ '<' ≠ b ∧ '>' ≠ b :=
  ⟨(ne_of_isBlank hb rfl).symm, (ne_of_isBlank hb rfl).symm, (ne_of_isBlank hb rfl).symm,
    (ne_of_isBlank hb rfl).symm⟩

/-- No operator starts at a blank in front of what begins no word of an operator. -/
theorem operatorAt?_blank (hb : Text.isBlank b = true)
    (hc : c.toLower ∉ ['n', 'r', 'l', 'i']) (rest : List Char) :
    operatorAt? (b :: c :: rest) = none := by
  have hlower : Text.lower (b :: c :: rest) = b :: c.toLower :: Text.lower rest :=
    Text.lower_cons_of_isBlank hb (c :: rest)
  obtain ⟨hequal, hbang, hless, hgreater⟩ := symbols_ne_blank hb
  simp only [List.mem_cons, List.not_mem_nil, or_false, not_or] at hc
  obtain ⟨hn, hr, hl, hi⟩ := hc
  rw [operatorAt?_eq, hlower]
  simp [operatorSpellings, hequal, hbang, hless, hgreater, Ne.symm hn, Ne.symm hr, Ne.symm hl,
    Ne.symm hi]

/-- No operator starts at the first letter of a word of an operator. -/
theorem operatorAt?_letter (hc : c.toLower ∈ ['n', 'r', 'l', 'i']) (rest : List Char) :
    operatorAt? (c :: rest) = none := by
  have hlower : Text.lower (c :: rest) = c.toLower :: Text.lower rest := rfl
  rw [operatorAt?_eq, hlower]
  generalize c.toLower = letter at hc
  simp only [List.mem_cons, List.not_mem_nil, or_false] at hc
  rcases hc with rfl | rfl | rfl | rfl <;> simp [operatorSpellings]

/-- The operator in symbols is found where it stands, with a blank behind it. -/
theorem operatorAt?_symbols (h : (Text.lower body, operator) ∈ Operator.symbols)
    (hc : Text.isBlank c = true) (rest : List Char) :
    operatorAt? (body ++ c :: rest) = some (operator, c :: rest) := by
  obtain ⟨hequal, -, -, hgreater⟩ := symbols_ne_blank hc
  have hlower : Text.lower (body ++ c :: rest) = Text.lower body ++ c :: Text.lower rest := by
    rw [Text.lower_append, Text.lower_cons_of_isBlank hc]
  have hlength : body.length = (Text.lower body).length := (List.length_map _).symm
  have hdrop : (body ++ c :: rest).drop (Text.lower body).length = c :: rest := by
    rw [← hlength, List.drop_left]
  rw [operatorAt?_eq, hlower]
  generalize Text.lower body = spelling at h hdrop
  simp only [Operator.symbols, List.mem_cons, List.not_mem_nil, or_false, Prod.mk.injEq] at h
  rcases h with ⟨rfl, rfl⟩ | ⟨rfl, rfl⟩ | ⟨rfl, rfl⟩ | ⟨rfl, rfl⟩ | ⟨rfl, rfl⟩ | ⟨rfl, rfl⟩ |
    ⟨rfl, rfl⟩ | ⟨rfl, rfl⟩ <;>
    simpa [operatorSpellings, hequal, hgreater] using hdrop

/-- No operator starts at a blank other than a space. -/
theorem operatorAt?_otherBlank (hb : Text.isBlank b = true) (hspace : b ≠ ' ')
    (rest : List Char) : operatorAt? (b :: rest) = none := by
  obtain ⟨hequal, hbang, hless, hgreater⟩ := symbols_ne_blank hb
  have hother : ' ' ≠ b := hspace.symm
  rw [operatorAt?_eq, Text.lower_cons_of_isBlank hb]
  simp [operatorSpellings, hequal, hbang, hless, hgreater, hother]

/-- No operator starts in front of "not" when other blanks than a single space are behind it. -/
theorem operatorAt?_deny {deny blanks : List Char} (hdeny : Text.lower deny = "not".toList)
    (hblanks : ∀ c ∈ blanks, Text.isBlank c = true) (hne : blanks ≠ []) (hspace : blanks ≠ [' '])
    (rest : List Char) : operatorAt? (' ' :: (deny ++ blanks ++ rest)) = none := by
  have hlower : Text.lower (' ' :: (deny ++ blanks ++ rest)) =
      ' ' :: ("not".toList ++ blanks ++ Text.lower rest) := by
    rw [Text.lower_cons_of_isBlank rfl, Text.lower_append, Text.lower_append, hdeny,
      Text.lower_of_blanks hblanks]
  rw [operatorAt?_eq, hlower]
  -- Either another blank stands behind the word, or a second one does.
  obtain ⟨d, more, rfl⟩ := List.exists_cons_of_ne_nil hne
  cases more with
  | nil =>
    have hother : ' ' ≠ d := fun h => hspace (by rw [h])
    simp [operatorSpellings, hother]
  | cons e more =>
    have he : Text.isBlank e = true := hblanks e (by simp)
    have hl : 'l' ≠ e := (ne_of_isBlank he rfl).symm
    have hi : 'i' ≠ e := (ne_of_isBlank he rfl).symm
    have hr : 'r' ≠ e := (ne_of_isBlank he rfl).symm
    simp [operatorSpellings, hl, hi, hr]

/-- An operator in words whose spelling stands behind a space is found with the space and the
blank behind it, if this is a space too. -/
theorem operatorAt?_spelled (hkind : operator.isSymbol = false)
    (h : Text.lower body = operator.sql.toList) (hc : Text.isBlank c = true) (rest : List Char) :
    operatorAt? (' ' :: (body ++ c :: rest)) =
      if c = ' ' then some (operator, rest) else none := by
  have hlower : Text.lower (' ' :: (body ++ c :: rest)) =
      ' ' :: (operator.sql.toList ++ c :: Text.lower rest) := by
    rw [Text.lower_cons_of_isBlank rfl, Text.lower_append, h, Text.lower_cons_of_isBlank hc]
  have hdrop : (' ' :: (body ++ c :: rest)).drop (operator.sql.toList.length + 2) = rest := by
    rw [← h, Text.lower, List.length_map]
    simp
  rw [operatorAt?_eq, hlower]
  by_cases hend : c = ' '
  · subst hend
    rw [if_pos rfl]
    cases operator <;> cases hkind <;> simpa [operatorSpellings, Operator.sql] using hdrop
  · have hother : ' ' ≠ c := Ne.symm hend
    rw [if_neg hend]
    cases operator <;> cases hkind <;> simp [operatorSpellings, Operator.sql, hother]

/-- An operator in words is found with the blanks on both sides of it when these are spaces and
the text is the spelling, in any letter case. -/
theorem operatorAt?_named (h : operator.NamedBy body) (hwords : operator.isSymbol = false)
    (hb : Text.isBlank b = true) (hc : Text.isBlank c = true) (rest : List Char) :
    operatorAt? (b :: body ++ c :: rest) =
      if b = ' ' ∧ Text.lower body = operator.sql.toList ∧ c = ' ' then some (operator, rest)
      else none := by
  by_cases hspace : b = ' '
  · subst hspace
    rw [List.cons_append]
    by_cases hspelled : Text.lower body = operator.sql.toList
    · rw [operatorAt?_spelled hwords hspelled hc]
      simp [hspelled]
    · rw [if_neg fun h => hspelled h.2.1]
      cases h with
      | symbolic hsolid hsymbol =>
        rw [Operator.isSymbol_of_symbols hsymbol] at hwords
        cases hwords
      | word hsolid hkind hlower => exact absurd hlower hspelled
      | @negated deny blanks word _ hdeny hsolid hblanks hne hkind hnot hlower =>
        -- With a single space between the words the text is the spelling.
        have hinner : blanks ≠ [' '] := by
          rintro rfl
          refine hspelled ?_
          rw [Operator.sql_negate_of_isWord hkind, Text.lower_append, Text.lower_append, hnot,
            hlower, Text.lower_of_blanks hblanks]
        have hnone := operatorAt?_deny hnot hblanks hne hinner (word ++ c :: rest)
        rwa [← List.append_assoc] at hnone
  · rw [if_neg fun h => hspace h.1]
    exact operatorAt?_otherBlank hb hspace _

end Search

/-! ### Where the operator is found -/

namespace Operator

/-- Whether a condition text finds the operator where this text stands for it, between two
spaces: it is written in symbols, or its spelling occurs with a space on both sides. -/
def FoundIn (operator : Operator) (text : List Char) : Prop :=
  operator.isSymbol = true ∨
    ' ' :: operator.sql.toList ++ [' '] <:+: Text.lower (' ' :: text ++ [' '])

/-- Where an operator stands in a text with a space put on both sides of it: what names the
operator has a blank on both sides, and there are only blanks around it. -/
structure StandsIn (operator : Operator) (text front : List Char) (b : Char) (body : List Char)
    (c : Char) (back : List Char) : Prop where
  /-- The text with the two spaces. -/
  padded : ' ' :: text ++ [' '] = front ++ [b] ++ body ++ c :: back
  /-- What names the operator. -/
  named : operator.NamedBy body
  /-- The blanks in front. -/
  before : ∀ d ∈ front ++ [b], Text.isBlank d = true
  /-- The blanks behind. -/
  after : ∀ d ∈ c :: back, Text.isBlank d = true

/-- An operator stands in each text that is read as it. -/
theorem standsIn_of_ofText? {operator : Operator} {text : String}
    (h : ofText? text = some operator) :
    ∃ front b body c back, operator.StandsIn text.toList front b body c back := by
  obtain ⟨lead, body, behind, htext, hlead, hbehind, hnamed⟩ := namedBy_of_ofText? h
  obtain ⟨front, b, hfront⟩ : ∃ front b, ' ' :: lead = front ++ [b] :=
    ⟨_, _, (List.dropLast_concat_getLast (by simp)).symm⟩
  obtain ⟨c, back, hback⟩ : ∃ c back, behind ++ [' '] = c :: back :=
    List.exists_cons_of_ne_nil (by simp)
  refine ⟨front, b, body, c, back, ?_, hnamed, ?_, ?_⟩
  · rw [← hfront, ← hback, htext]
    simp
  · rw [← hfront]
    exact blanks_append oneBlank hlead
  · rw [← hback]
    exact blanks_append hbehind oneBlank

namespace StandsIn

variable {operator : Operator} {text front body back : List Char} {b c : Char}

/-- There is a blank right in front of the name. -/
theorem blankBefore (h : operator.StandsIn text front b body c back) : Text.isBlank b = true :=
  h.before b (by simp)

/-- There is a blank right behind the name. -/
theorem blankAfter (h : operator.StandsIn text front b body c back) : Text.isBlank c = true :=
  h.after c (by simp)

/-- An operator in words is found where it stands when the name is the spelling, in any letter
case, with spaces next to it. -/
theorem foundIn_iff (h : operator.StandsIn text front b body c back)
    (hwords : operator.isSymbol = false) :
    operator.FoundIn text ↔ b = ' ' ∧ Text.lower body = operator.sql.toList ∧ c = ' ' := by
  have hlower : Text.lower (' ' :: text ++ [' ']) =
      front ++ [b] ++ Text.lower body ++ c :: back := by
    rw [h.padded, Text.lower_append, Text.lower_append, Text.lower_of_blanks h.before,
      Text.lower_of_blanks h.after]
  obtain ⟨hfirm, hsql, hsolid⟩ := h.named.lower_spec hwords
  constructor
  · rintro (hsymbol | ⟨left, right, hinfix⟩)
    · rw [hsymbol] at hwords
      cases hwords
    · rw [hlower] at hinfix
      have hpadded : left ++ [' '] ++ operator.sql.toList ++ ([' '] ++ right) =
          front ++ [b] ++ Text.lower body ++ c :: back := by
        rw [← hinfix]
        simp
      -- All that is no blank in the text belongs to the spelling.
      have hcount := congrArg (fun text => (Text.solid text).length) hpadded
      rw [Text.solid_append (front ++ [b] ++ Text.lower body), Text.solid_append (front ++ [b]),
        Text.solid_of_blanks h.before, Text.solid_of_blanks h.after, hsolid] at hcount
      simp only [Text.solid_append, Text.solid_of_blanks oneBlank, List.nil_append,
        List.append_nil, List.length_append] at hcount
      have hleft := (Text.solid_eq_nil_iff left).1 (List.length_eq_zero_iff.1 (by omega))
      have hright := (Text.solid_eq_nil_iff right).1 (List.length_eq_zero_iff.1 (by omega))
      obtain ⟨hstart, hspelled, hend⟩ := hsql.padded_inj hfirm (blanks_append hleft oneBlank)
        (blanks_append oneBlank hright) h.before h.after hpadded
      obtain ⟨-, hb⟩ := List.append_inj' hstart rfl
      obtain ⟨hc, -⟩ := List.cons.inj hend
      exact ⟨(List.singleton_inj.1 hb).symm, hspelled.symm, hc.symm⟩
  · rintro ⟨rfl, hspelled, rfl⟩
    refine .inr ⟨front, back, ?_⟩
    rw [hlower, hspelled]
    simp

end StandsIn

end Operator

/-- Blanks begin no word of an operator. -/
theorem toLower_not_letter {d : Char} (hd : Text.isBlank d = true) :
    d.toLower ∉ ['n', 'r', 'l', 'i'] := by
  rw [Text.toLower_of_isBlank hd]
  intro hletter
  simp only [List.mem_cons, List.not_mem_nil, or_false] at hletter
  rcases hletter with rfl | rfl | rfl | rfl <;> exact absurd hd (by decide)

/-- Blanks are skipped up to the last of them. -/
theorem splitOperator?_blanks {front : List Char} {b : Char}
    (hfront : ∀ d ∈ front, Text.isBlank d = true) (hb : Text.isBlank b = true)
    (rest : List Char) :
    splitOperator? (front ++ b :: rest) =
      (splitOperator? (b :: rest)).map fun found => (front ++ found.1, found.2) := by
  refine splitOperator?_skip fun left d right hsplit => ?_
  have hd : Text.isBlank d = true := hfront d (by simp [hsplit])
  cases right with
  | nil => exact operatorAt?_blank hd (toLower_not_letter hb) rest
  | cons e right =>
    have he : Text.isBlank e = true := hfront e (by simp [hsplit])
    exact operatorAt?_blank hd (toLower_not_letter he) _

/-- Behind a field the search goes on at the last of the blanks there. -/
theorem splitOperator?_behind {field front : List Char} {b : Char}
    (hfield : ∀ c ∈ field, IsFieldChar c) (hblanks : ∀ d ∈ front ++ [b], Text.isBlank d = true)
    (rest : List Char) :
    splitOperator? (field ++ (front ++ b :: rest)) =
      (splitOperator? (b :: rest)).map fun found => (field ++ front ++ found.1, found.2) := by
  have hfront : ∀ d ∈ front, Text.isBlank d = true := fun d hd => hblanks d (by simp [hd])
  have hb : Text.isBlank b = true := hblanks b (by simp)
  obtain ⟨d, tail, htail, hd⟩ : ∃ d tail, front ++ b :: rest = d :: tail ∧ d ≠ '=' := by
    cases front with
    | nil => exact ⟨b, rest, rfl, ne_of_isBlank hb rfl⟩
    | cons d front => exact ⟨d, _, rfl, ne_of_isBlank (hfront d (by simp)) rfl⟩
  rw [htail, splitOperator?_field hfield hd, ← htail, splitOperator?_blanks hfront hb]
  cases splitOperator? (b :: rest) with
  | none => rfl
  | some found => simp

section Found

variable {operator : Operator} {body : List Char}

/-- Between two blanks the search finds an operator in symbols, and one in words that is spelled
there with spaces next to it. -/
theorem splitOperator?_found (h : operator.NamedBy body) {b c : Char}
    (hb : Text.isBlank b = true) (hc : Text.isBlank c = true)
    (hfound : operator.isSymbol = false →
      b = ' ' ∧ Text.lower body = operator.sql.toList ∧ c = ' ') (rest : List Char) :
    ∃ before after, splitOperator? (b :: body ++ c :: rest) =
        some (before, operator, after ++ rest) ∧
      (∀ d ∈ before, Text.isBlank d = true) ∧ ∀ d ∈ after, Text.isBlank d = true := by
  cases hkind : operator.isSymbol with
  | false =>
    refine ⟨[], [], ?_, noBlanks, noBlanks⟩
    have hhere := operatorAt?_named h hkind hb hc rest
    rw [if_pos (hfound hkind)] at hhere
    rw [List.cons_append] at hhere ⊢
    rw [splitOperator?, hhere]
    rfl
  | true =>
    refine ⟨[b], [c], ?_, by simpa using hb, by simpa using hc⟩
    obtain ⟨d, tail, rfl, hd, hletter⟩ := h.first_spec
    have hnot : d.toLower ∉ ['n', 'r', 'l', 'i'] := fun hmem => by
      rw [hletter.1 hmem] at hkind
      cases hkind
    have hbefore := operatorAt?_blank hb hnot (tail ++ c :: rest)
    have hhere := operatorAt?_symbols (h.mem_symbols hkind) hc rest
    rw [List.cons_append] at hhere
    rw [List.cons_append, List.cons_append, splitOperator?, hbefore, splitOperator?, hhere]
    rfl

/-- Between two blanks an operator in words that is spelled otherwise is not found: what stands
before the operator that is found reaches into it. -/
theorem splitOperator?_missed (h : operator.NamedBy body) (hwords : operator.isSymbol = false)
    {b c : Char} (hb : Text.isBlank b = true) (hc : Text.isBlank c = true)
    (hmissed : ¬(b = ' ' ∧ Text.lower body = operator.sql.toList ∧ c = ' '))
    {rest before after : List Char} {found : Operator}
    (hsplit : splitOperator? (b :: body ++ c :: rest) = some (before, found, after)) :
    ¬∀ d ∈ before, Text.isBlank d = true := by
  have hbefore := operatorAt?_named h hwords hb hc rest
  rw [if_neg hmissed] at hbefore
  obtain ⟨d, tail, rfl, hd, hletter⟩ := h.first_spec
  have hhere := operatorAt?_letter (hletter.2 hwords) (tail ++ c :: rest)
  rw [List.cons_append, List.cons_append] at hbefore hsplit
  rw [splitOperator?, hbefore, splitOperator?, hhere] at hsplit
  intro hblanks
  cases hlater : splitOperator? (tail ++ c :: rest) with
  | none =>
    rw [hlater] at hsplit
    cases hsplit
  | some parts =>
    rw [hlater] at hsplit
    cases hsplit
    rw [hblanks d (by simp)] at hd
    cases hd

end Found

/-! ### Conditions with the text of an operator -/

/-- A condition text: a field, the text of an operator and a quoted text, with a space between
neighbours. -/
def operatorCondition (field text : String) (quote : Char) (literal : String) : String :=
  field ++ " " ++ text ++ " " ++ String.ofList (enquoted quote literal)

namespace Operator.StandsIn

variable {context : ParseContext} {operator : Operator} {field text literal : String}
  {quote : Char} {front body back : List Char} {b c : Char}

/-- The text of a condition, taken apart where the operator stands in it. -/
theorem operatorCondition_eq (h : operator.StandsIn text.toList front b body c back) :
    operatorCondition field text quote literal = String.ofList (field.toList ++
      (front ++ b :: (body ++ c :: (back ++ enquoted quote literal)))) := by
  have htext := congrArg (· ++ enquoted quote literal) h.padded
  simp only [List.append_assoc, List.cons_append, List.nil_append] at htext
  rw [← htext]
  simp [operatorCondition, ← String.toList_inj, String.toList_append]

/-- Behind the field of a condition the search goes on at the blank in front of the name. -/
theorem splitOperator?_eq (h : operator.StandsIn text.toList front b body c back)
    (hfield : ∀ c ∈ field.toList, IsFieldChar c) (value : List Char) :
    splitOperator? (field.toList ++ (front ++ b :: (body ++ c :: (back ++ value)))) =
      (splitOperator? (b :: (body ++ c :: (back ++ value)))).map fun found =>
        (field.toList ++ front ++ found.1, found.2) :=
  splitOperator?_behind hfield h.before _

/-- The text of a condition has firm ends: those of its field and of its quoted text. -/
theorem operatorCondition_firm (hfield : HasFirmEnds field.toList)
    (hquote : quote = '\'' ∨ quote = '"') :
    HasFirmEnds (field.toList ++
      (front ++ b :: (body ++ c :: (back ++ enquoted quote literal)))) := by
  have hends := hfield.between (enquoted_firm hquote literal) (front ++ b :: (body ++ c :: back))
  simpa only [List.append_assoc, List.cons_append] using hends

/-- A condition whose operator is found has the field in front of it and the value behind it. -/
theorem parseCondition_found (h : operator.StandsIn text.toList front b body c back)
    (hne : field ≠ "") (hfield : ∀ c ∈ field.toList, IsFieldChar c)
    (hquote : quote = '\'' ∨ quote = '"') (hfound : operator.FoundIn text.toList) :
    parseCondition context (operatorCondition field text quote literal) =
      match parseValue context (enquoted quote literal) with
      | .ok value => Condition.compare (.path field) operator (.ofValue value)
      | .error error => .error error := by
  have hfieldEnds : HasFirmEnds field.toList :=
    .field (fun h => hne (String.toList_eq_nil_iff.1 h)) hfield
  obtain ⟨before, after, hsearch, hblank, hrest⟩ := splitOperator?_found h.named h.blankBefore
    h.blankAfter (fun hwords => (h.foundIn_iff hwords).1 hfound) (back ++ enquoted quote literal)
  rw [List.cons_append] at hsearch
  have hsplit := h.splitOperator?_eq hfield (enquoted quote literal)
  rw [hsearch, Option.map_some, List.append_assoc, ← List.append_assoc after] at hsplit
  rw [h.operatorCondition_eq]
  exact parseCondition_of_split hsplit (operatorCondition_firm hfieldEnds hquote) hfieldEnds
    (enquoted_firm hquote literal)
    (blanks_append (fun d hd => h.before d (by simp [hd])) hblank)
    (blanks_append hrest fun d hd => h.after d (by simp [hd]))

/-- A condition whose operator is not found is not on the field: the field it is on, if any,
reaches into the text of the operator. -/
theorem parseCondition_missed (h : operator.StandsIn text.toList front b body c back)
    (hne : field ≠ "") (hfield : ∀ c ∈ field.toList, IsFieldChar c)
    (hquote : quote = '\'' ∨ quote = '"') (hmissed : ¬operator.FoundIn text.toList)
    {condition : Condition}
    (hcondition :
      parseCondition context (operatorCondition field text quote literal) = .ok condition) :
    condition.subject ≠ some (.path field) := by
  intro hsubject
  have hfieldEnds : HasFirmEnds field.toList :=
    .field (fun h => hne (String.toList_eq_nil_iff.1 h)) hfield
  have hwords : operator.isSymbol = false := Bool.eq_false_iff.2 fun h => hmissed (.inl h)
  have hspelled := mt (h.foundIn_iff hwords).2 hmissed
  have hread := parseCondition_inv hcondition
  clear hcondition
  rw [h.operatorCondition_eq, String.toList_ofList,
    (operatorCondition_firm hfieldEnds hquote).trim_self, h.splitOperator?_eq hfield] at hread
  cases hlater : splitOperator? (b :: (body ++ c :: (back ++ enquoted quote literal))) with
  | none =>
    rw [hlater, Option.map_none] at hread
    dsimp only at hread
    rw [hread] at hsubject
    simp [Condition.bare] at hsubject
  | some found =>
    obtain ⟨before, other, after⟩ := found
    rw [hlater, Option.map_some] at hread
    dsimp only at hread
    obtain ⟨value, -, rfl⟩ := hread
    have hpath : String.ofList (Text.trim (field.toList ++ front ++ before)) = field := by
      simpa using hsubject
    have htrim := congrArg String.toList hpath
    rw [String.toList_ofList, List.append_assoc] at htrim
    have hblank := hfieldEnds.blanks_of_trim htrim
    exact splitOperator?_missed h.named hwords h.blankBefore h.blankAfter hspelled hlater
      fun d hd => hblank d (by simp [hd])

end Operator.StandsIn

/-- A condition with the text of an operator has that field and operator, or is an error, when
the operator is in symbols, or in words that are spelled with single spaces between and next to
them. Otherwise no condition that is read from it is on the field, although the text by itself is
read as the operator. -/
theorem parseCondition_operatorText (context : ParseContext) (field text literal : String)
    (quote : Char) (operator : Operator) (hne : field ≠ "")
    (hfield : ∀ c ∈ field.toList, IsFieldChar c) (hquote : quote = '\'' ∨ quote = '"')
    (htext : Operator.ofText? text = some operator) :
    (operator.FoundIn text.toList →
      parseCondition context (operatorCondition field text quote literal) =
        match parseValue context (enquoted quote literal) with
        | .ok value => Condition.compare (.path field) operator (.ofValue value)
        | .error error => .error error) ∧
    (¬operator.FoundIn text.toList → ∀ condition,
      parseCondition context (operatorCondition field text quote literal) = .ok condition →
      condition.subject ≠ some (.path field)) := by
  obtain ⟨front, b, body, c, back, hstands⟩ := Operator.standsIn_of_ofText? htext
  exact ⟨hstands.parseCondition_found hne hfield hquote,
    fun hmissed condition => hstands.parseCondition_missed hne hfield hquote hmissed⟩

/-- The characters of a text that is "not" in some letter case can stand in a field. -/
theorem isFieldChar_of_not {deny : List Char} (h : Text.lower deny = "not".toList) :
    ∀ c ∈ deny, IsFieldChar c := by
  intro c hc
  have hlower : c.toLower ∈ "not".toList := by
    rw [← h]
    exact List.mem_map_of_mem hc
  have hother : ∀ d, d.toLower = d → d ∉ "not".toList → c ≠ d := by
    rintro d hd hnot rfl
    exact hnot (hd ▸ hlower)
  have hword : Text.IsWord (Text.lower deny) := by
    rw [h]
    decide
  exact ⟨hword.of_lower.noBlank c hc, hother '=' (by decide) (by decide),
    hother '<' (by decide) (by decide), hother '>' (by decide) (by decide)⟩

/-- More than one blank behind "not" makes it a part of the field, and the condition the
opposite of the one that the text of the operator asks for. -/
theorem parseCondition_absorbs_not {context : ParseContext} {field literal : String}
    {quote : Char} {positive : Operator} (hne : field ≠ "")
    (hfield : ∀ c ∈ field.toList, IsFieldChar c) (hquote : quote = '\'' ∨ quote = '"')
    (hkind : positive.isWord = true) {deny blanks word : List Char}
    (hdeny : Text.lower deny = "not".toList) (hblanks : ∀ c ∈ blanks, Text.isBlank c = true)
    (hmore : blanks ≠ []) (hword : Text.lower word = positive.sql.toList) :
    parseCondition context
        (operatorCondition field (String.ofList (deny ++ blanks ++ ' ' :: word)) quote literal) =
      match parseValue context (enquoted quote literal) with
      | .ok value =>
        Condition.compare (.path (field ++ " " ++ String.ofList deny)) positive (.ofValue value)
      | .error error => .error error := by
  have hvalue := enquoted_firm hquote literal
  have hspace : Text.isBlank ' ' = true := rfl
  have hdenied := isFieldChar_of_not hdeny
  have hsolid : Text.IsWord word :=
    .of_lower (by rw [hword]; exact Operator.isWord_sql hkind)
  have hnamed : positive.NamedBy word := .word hsolid hkind hword
  generalize hvalueText : enquoted quote literal = value at hvalue ⊢
  -- What follows the field is skipped up to the last blank in front of the word.
  have hhere : operatorAt? (' ' :: (deny ++ (blanks ++ ' ' :: (word ++ ' ' :: value)))) =
      none := by
    have hnone := operatorAt?_deny hdeny (blanks_append hblanks oneBlank) (by simp)
      (by simpa using hmore) (word ++ ' ' :: value)
    simpa using hnone
  obtain ⟨before, after, hfound, hbefore, hafter⟩ := splitOperator?_found hnamed hspace hspace
    (fun _ => ⟨rfl, hword, rfl⟩) value
  rw [List.cons_append] at hfound
  have hsearch : splitOperator? (field.toList ++
      ' ' :: (deny ++ (blanks ++ ' ' :: (word ++ ' ' :: value)))) =
        some ((field ++ " " ++ String.ofList deny).toList ++ (blanks ++ before), positive,
          after ++ value) := by
    rw [splitOperator?_field hfield (by decide), splitOperator?, hhere,
      splitOperator?_behind hdenied (blanks_append hblanks oneBlank), hfound]
    simp [String.toList_append]
  have hfieldEnds : HasFirmEnds field.toList :=
    .field (fun h => hne (String.toList_eq_nil_iff.1 h)) hfield
  have hdenyEnds : HasFirmEnds deny := .field (by rintro rfl; cases hdeny) hdenied
  have hends : HasFirmEnds (field ++ " " ++ String.ofList deny).toList := by
    have hboth := hfieldEnds.between hdenyEnds [' ']
    simpa [String.toList_append] using hboth
  have hfirm : HasFirmEnds (field.toList ++
      ' ' :: (deny ++ (blanks ++ ' ' :: (word ++ ' ' :: value)))) := by
    have hboth := hfieldEnds.between hvalue (' ' :: (deny ++ (blanks ++ ' ' :: (word ++ [' ']))))
    simpa using hboth
  have hwhole : operatorCondition field (String.ofList (deny ++ blanks ++ ' ' :: word)) quote
      literal = String.ofList (field.toList ++
        ' ' :: (deny ++ (blanks ++ ' ' :: (word ++ ' ' :: value)))) := by
    simp [operatorCondition, ← String.toList_inj, String.toList_append, hvalueText]
  rw [hwhole]
  exact parseCondition_of_split hsearch hfirm hends hvalue (blanks_append hblanks hbefore) hafter

/-- An operator in capitals is found; with two spaces inside it is not found. -/
theorem parseCondition_capital_notLike :
    parseCondition [] "name NOT LIKE \"A%\"" =
        .ok ⟨some (.path "name"), some (.notLike, .scalar (.string "A%"))⟩ ∧
      ∀ condition, parseCondition [] "name not  like \"A%\"" = .ok condition →
        condition.subject ≠ some (.path "name") := by
  have hfield : ∀ c ∈ "name".toList, IsFieldChar c := by
    simp [IsFieldChar, Text.isBlank]
  have hcapital : "name NOT LIKE \"A%\"" = operatorCondition "name" "NOT LIKE" '"' "A%" := by
    decide
  have hdoubled : "name not  like \"A%\"" = operatorCondition "name" "not  like" '"' "A%" := by
    decide
  have hspelled : Operator.notLike.FoundIn "NOT LIKE".toList := .inr ⟨[], [], by decide⟩
  have hvalue : parseValue [] (enquoted '"' "A%") = .ok (.string "A%") :=
    parseValue_enquoted (.inr rfl) (by simp [IsPlaceholder])
  constructor
  · have hread := (parseCondition_operatorText [] "name" "NOT LIKE" "A%" '"' .notLike (by simp)
      hfield (.inr rfl) (by decide)).1 hspelled
    rw [← hcapital, hvalue] at hread
    exact hread
  · have hmissed : ¬Operator.notLike.FoundIn "not  like".toList := by
      rintro (hsymbol | hinfix)
      · cases hsymbol
      · have hlower : Text.lower (' ' :: "not  like".toList ++ [' ']) =
            [' ', 'n', 'o', 't', ' ', ' ', 'l', 'i', 'k', 'e', ' '] := by decide
        have hspelling : Operator.notLike.sql.toList =
            ['n', 'o', 't', ' ', 'l', 'i', 'k', 'e'] := by decide
        rw [hlower, hspelling] at hinfix
        revert hinfix
        decide
    have hread := (parseCondition_operatorText [] "name" "not  like" "A%" '"' .notLike (by simp)
      hfield (.inr rfl) (by decide)).2 hmissed
    rw [← hdoubled] at hread
    exact hread

/-- With two spaces inside it the text of "not like" is read as the operator by itself, but the
condition is on the field "name not" and asks for what the operator denies. -/
theorem parseCondition_doubled_space :
    Operator.ofText? "not  like" = some .notLike ∧
      parseCondition [] "name not  like \"A%\"" =
        .ok ⟨some (.path "name not"), some (.like, .scalar (.string "A%"))⟩ := by
  refine ⟨by decide, ?_⟩
  have hfield : ∀ c ∈ "name".toList, IsFieldChar c := by
    simp [IsFieldChar, Text.isBlank]
  have hvalue : parseValue [] (enquoted '"' "A%") = .ok (.string "A%") :=
    parseValue_enquoted (.inr rfl) (by simp [IsPlaceholder])
  have hdoubled : "name not  like \"A%\"" = operatorCondition "name"
      (String.ofList ("not".toList ++ [' '] ++ ' ' :: "like".toList)) '"' "A%" := by decide
  have hswallowed : "name not" = "name" ++ " " ++ String.ofList "not".toList := by decide
  have hnot : Text.lower "not".toList = "not".toList := by decide
  have hword : Text.lower "like".toList = Operator.like.sql.toList := by decide
  have hread := @parseCondition_absorbs_not [] "name" "A%" '"' .like (by simp) hfield (.inr rfl)
    rfl "not".toList [' '] "like".toList hnot oneBlank (by simp) hword
  rw [← hdoubled, hvalue, ← hswallowed] at hread
  exact hread

end ScopeQuery
