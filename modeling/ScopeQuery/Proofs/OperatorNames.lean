import Mathlib.Data.List.Basic
import ScopeQuery.Proofs.BlankTexts
import ScopeQuery.Vocabulary.Operator

/-!
# Names of operators

The text of an operator, read by itself. It has the words of a spelling, in any letter case, with
any blanks around and between them: one of the symbols, a word, or a word behind "not".
-/

namespace ScopeQuery

namespace Operator

/-- Whether the operator is written in symbols, and not in words. -/
def isSymbol : Operator → Bool
  | .eq | .neq | .gt | .gte | .lt | .lte => true
  | _ => false

/-- Whether the operator is written as a single word. -/
def isWord : Operator → Bool
  | .like | .isIn | .regexp => true
  | _ => false

/-- The texts of operators in symbols. -/
def symbols : List (List Char × Operator) :=
  [(['='], .eq), (['=', '='], .eq), (['!', '='], .neq), (['<', '>'], .neq), (['>'], .gt),
    (['>', '='], .gte), (['<'], .lt), (['<', '='], .lte)]

/-- The symbols are the texts of operators that are written in symbols. -/
theorem isSymbol_of_symbols {entry : List Char × Operator} (h : entry ∈ symbols) :
    entry.2.isSymbol = true := by
  revert entry
  decide

variable {operator : Operator}

/-- A word is not in symbols. -/
theorem isSymbol_of_isWord (h : operator.isWord = true) : operator.isSymbol = false := by
  cases operator <;> cases h <;> rfl

/-- The opposite of a word is not in symbols. -/
theorem isSymbol_negate_of_isWord (h : operator.isWord = true) :
    operator.negate.isSymbol = false := by
  cases operator <;> cases h <;> rfl

/-- The spelling of a word has no blank. -/
theorem isWord_sql (h : operator.isWord = true) : Text.IsWord operator.sql.toList := by
  cases operator <;> cases h <;> decide

/-- The spelling of a word is not empty and has no space. -/
theorem noSpace_sql (h : operator.isWord = true) :
    ' ' ∉ operator.sql.toList ∧ operator.sql.toList ≠ [] := by
  cases operator <;> cases h <;> decide

/-- The spelling of the opposite of a word. -/
theorem sql_negate_of_isWord (h : operator.isWord = true) :
    operator.negate.sql.toList = "not".toList ++ [' '] ++ operator.sql.toList := by
  cases operator <;> cases h <;> rfl

end Operator

/-- Joined words are a single word only when there is no other. -/
theorem joined_eq_word {words : List (List Char)} {word : List Char} (hword : ' ' ∉ word)
    (hne : word ≠ []) (h : (Text.joined " " (words.map String.ofList)).toList = word) :
    words = [word] := by
  match words with
  | [] => exact absurd h.symm hne
  | [first] => simpa [Text.joined] using h
  | first :: next :: rest =>
    refine absurd ?_ hword
    rw [← h]
    simp [Text.joined]

/-- Joined words are two words only when they are these. -/
theorem joined_eq_two {words : List (List Char)} (hwords : ∀ word ∈ words, ' ' ∉ word)
    {first second : List Char} (hfirst : ' ' ∉ first) (hsecond : ' ' ∉ second) (hne : second ≠ [])
    (h : (Text.joined " " (words.map String.ofList)).toList = first ++ ' ' :: second) :
    words = [first, second] := by
  match words with
  | [] => simp [Text.joined] at h
  | [word] =>
    refine absurd ?_ (hwords word (by simp))
    rw [show word = first ++ ' ' :: second by simpa [Text.joined] using h]
    simp
  | word :: next :: rest =>
    have hsplit : first ++ ' ' :: second =
        word ++ ' ' :: (Text.joined " " ((next :: rest).map String.ofList)).toList := by
      simpa [Text.joined] using h.symm
    obtain ⟨rfl, -, htail⟩ := (List.append_cons_inj_of_notMem hfirst hsecond).1 hsplit
    rw [joined_eq_word hsecond hne htail.symm]

namespace Operator

/-- How an operator is named by a text without blanks at its ends. -/
inductive NamedBy : Operator → List Char → Prop where
  /-- It is written in symbols. -/
  | symbolic {body : List Char} {operator : Operator} (hsolid : Text.IsWord body)
    (h : (Text.lower body, operator) ∈ symbols) : NamedBy operator body
  /-- It is a word, in any letter case. -/
  | word {body : List Char} {operator : Operator} (hsolid : Text.IsWord body)
    (hkind : operator.isWord = true)
    (h : Text.lower body = operator.sql.toList) : NamedBy operator body
  /-- It is a word behind "not", with any blanks between the two. -/
  | negated {deny blanks body : List Char} {operator : Operator} (hdeny : Text.IsWord deny)
    (hsolid : Text.IsWord body) (hblanks : ∀ c ∈ blanks, Text.isBlank c = true)
    (hne : blanks ≠ [])
    (hkind : operator.isWord = true)
    (hlower : Text.lower deny = "not".toList) (h : Text.lower body = operator.sql.toList) :
    NamedBy operator.negate (deny ++ blanks ++ body)

/-- A spelling is one of the symbols, a word, or two words of which the first is "not". -/
theorem ofSpelling?_cases {spelling : String} {operator : Operator}
    (h : ofSpelling? spelling = some operator) :
    (spelling.toList, operator) ∈ symbols ∨
      ∃ positive : Operator, positive.isWord = true ∧
        (operator = positive ∧ spelling.toList = positive.sql.toList ∨
          operator = positive.negate ∧
            spelling.toList = "not".toList ++ ' ' :: positive.sql.toList) := by
  unfold ofSpelling? at h
  split at h
  case h_15 => cases h
  all_goals
    cases h
    first
    | exact .inl (by decide)
    | exact .inr ⟨.like, rfl, by decide⟩
    | exact .inr ⟨.isIn, rfl, by decide⟩
    | exact .inr ⟨.regexp, rfl, by decide⟩

/-- A text with one word is the word between blanks. -/
theorem word_of_lowered {text spelling : List Char}
    (h : (Text.words text).map Text.lower = [spelling]) :
    ∃ lead body behind, text = lead ++ body ++ behind ∧
      (∀ c ∈ lead, Text.isBlank c = true) ∧ (∀ c ∈ behind, Text.isBlank c = true) ∧
      Text.IsWord body ∧ Text.lower body = spelling := by
  obtain ⟨body, rest, hwords, hbody, hrest⟩ := List.map_eq_cons_iff.1 h
  obtain rfl := List.map_eq_nil_iff.1 hrest
  obtain ⟨lead, behind, htext, hlead, hsolid, -, hbehind⟩ := Text.words_eq_cons hwords
  exact ⟨lead, body, behind, htext, hlead, Text.blanks_of_words_eq_nil hbehind, hsolid, hbody⟩

/-- A text with two words is the words between blanks, with blanks between them. -/
theorem words_of_lowered {text first second : List Char}
    (h : (Text.words text).map Text.lower = [first, second]) :
    ∃ lead deny blanks body behind, text = lead ++ (deny ++ blanks ++ body) ++ behind ∧
      (∀ c ∈ lead, Text.isBlank c = true) ∧ (∀ c ∈ behind, Text.isBlank c = true) ∧
      (∀ c ∈ blanks, Text.isBlank c = true) ∧ blanks ≠ [] ∧ Text.IsWord deny ∧
      Text.lower deny = first ∧ Text.IsWord body ∧ Text.lower body = second := by
  obtain ⟨deny, rest, hwords, hdeny, hrest⟩ := List.map_eq_cons_iff.1 h
  obtain ⟨lead, tail, rfl, hlead, hsolid, hends, rfl⟩ := Text.words_eq_cons hwords
  obtain ⟨blanks, body, behind, rfl, hblanks, hbehind, hbody, hlower⟩ := word_of_lowered hrest
  refine ⟨lead, deny, blanks, body, behind, by simp, hlead, hbehind, hblanks, ?_, hsolid, hdeny,
    hbody, hlower⟩
  -- Without a blank between them the two words were one.
  rintro rfl
  obtain ⟨c, rest, rfl, hc⟩ := hbody.firm.first
  have hblank := hends c (rest ++ behind) rfl
  rw [hc] at hblank
  cases hblank

/-- A text that is read as an operator names it between blanks. -/
theorem namedBy_of_ofText? {text : String} {operator : Operator}
    (h : ofText? text = some operator) :
    ∃ lead body behind, text.toList = lead ++ body ++ behind ∧
      (∀ c ∈ lead, Text.isBlank c = true) ∧ (∀ c ∈ behind, Text.isBlank c = true) ∧
      NamedBy operator body := by
  rw [ofText?, ← Function.comp_def String.ofList Text.lower, ← List.map_map] at h
  generalize hlowered : (Text.words text.toList).map Text.lower = lowered at h
  have hspaces : ∀ word ∈ lowered, ' ' ∉ word := by
    intro word hword
    rw [← hlowered] at hword
    obtain ⟨given, hgiven, rfl⟩ := List.mem_map.1 hword
    exact (Text.isWord_of_mem_words hgiven).noSpace
  obtain hsymbol | ⟨positive, hkind, ⟨rfl, hword⟩ | ⟨rfl, hwords⟩⟩ := ofSpelling?_cases h
  · have hshape : ∀ entry ∈ symbols, ' ' ∉ entry.1 ∧ entry.1 ≠ [] := by decide
    obtain ⟨hspace, hne⟩ := hshape _ hsymbol
    rw [joined_eq_word hspace hne rfl] at hlowered
    obtain ⟨lead, body, behind, htext, hlead, hbehind, hsolid, hlower⟩ :=
      word_of_lowered hlowered
    have hnamed : (Text.lower body, operator) ∈ symbols := by rwa [hlower]
    exact ⟨lead, body, behind, htext, hlead, hbehind, .symbolic hsolid hnamed⟩
  · obtain ⟨hspace, hne⟩ := noSpace_sql hkind
    rw [joined_eq_word hspace hne hword] at hlowered
    obtain ⟨lead, body, behind, htext, hlead, hbehind, hsolid, hlower⟩ :=
      word_of_lowered hlowered
    exact ⟨lead, body, behind, htext, hlead, hbehind, .word hsolid hkind hlower⟩
  · obtain ⟨hspace, hne⟩ := noSpace_sql hkind
    rw [joined_eq_two hspaces (by decide) hspace hne hwords] at hlowered
    obtain ⟨lead, deny, blanks, body, behind, htext, hlead, hbehind, hblanks, hmore, hdeny, hnot,
      hsolid, hlower⟩ := words_of_lowered hlowered
    exact ⟨lead, _, behind, htext, hlead, hbehind,
      .negated hdeny hsolid hblanks hmore hkind hnot hlower⟩

namespace NamedBy

variable {operator : Operator} {body : List Char}

/-- A text that names an operator has firm ends. -/
theorem firm (h : operator.NamedBy body) : HasFirmEnds body := by
  cases h with
  | symbolic hsolid => exact hsolid.firm
  | word hsolid => exact hsolid.firm
  | negated hdeny hsolid => exact hdeny.firm.between hsolid.firm _

/-- In lower case, a text that names an operator in words is the spelling but for blanks, and
both have firm ends. -/
theorem lower_spec (h : operator.NamedBy body) (hwords : operator.isSymbol = false) :
    HasFirmEnds (Text.lower body) ∧ HasFirmEnds operator.sql.toList ∧
      Text.solid (Text.lower body) = Text.solid operator.sql.toList := by
  cases h with
  | symbolic hsolid hsymbol =>
    rw [isSymbol_of_symbols hsymbol] at hwords
    cases hwords
  | word hsolid hkind hlower =>
    rw [hlower]
    exact ⟨(isWord_sql hkind).firm, (isWord_sql hkind).firm, rfl⟩
  | negated hdeny hsolid hblanks hne hkind hnot hlower =>
    have hfirm : HasFirmEnds "not".toList := Text.IsWord.firm (by decide)
    rw [Text.lower_append, Text.lower_append, hnot, hlower, Text.lower_of_blanks hblanks,
      sql_negate_of_isWord hkind]
    refine ⟨hfirm.between (isWord_sql hkind).firm _, hfirm.between (isWord_sql hkind).firm _, ?_⟩
    simp only [Text.solid_append, Text.solid_of_blanks hblanks, Text.solid_of_blanks oneBlank]

/-- A text that names an operator begins with a letter that begins a word of an operator when it
is in words, and with no such letter when it is in symbols. -/
theorem first_spec (h : operator.NamedBy body) :
    ∃ d tail, body = d :: tail ∧ Text.isBlank d = false ∧
      (d.toLower ∈ ['n', 'r', 'l', 'i'] ↔ operator.isSymbol = false) := by
  cases h with
  | symbolic hsolid hsymbol =>
    obtain ⟨d, tail, rfl, hd⟩ := hsolid.firm.first
    refine ⟨d, tail, rfl, hd, ?_⟩
    have hsymbols : ∀ entry ∈ symbols, ∀ c ∈ entry.1, c ∉ ['n', 'r', 'l', 'i'] := by
      simp [symbols]
    have hfirst := hsymbols _ hsymbol d.toLower (by simp [Text.lower])
    simp only [isSymbol_of_symbols hsymbol, hfirst, Bool.true_eq_false]
  | word hsolid hkind hlower =>
    obtain ⟨d, tail, rfl, hd⟩ := hsolid.firm.first
    refine ⟨d, tail, rfl, hd, ?_⟩
    have hhead := congrArg List.head? hlower
    cases operator <;> cases hkind <;> simp_all [sql, isSymbol, Text.lower]
  | negated hdeny hsolid hblanks hne hkind hnot hlower =>
    obtain ⟨d, tail, rfl, hd⟩ := hdeny.firm.first
    refine ⟨d, _, by rw [List.append_assoc, List.cons_append], hd, ?_⟩
    have hhead := congrArg List.head? hnot
    have hn : d.toLower = 'n' := by simpa [Text.lower] using hhead
    simp [hn, isSymbol_negate_of_isWord hkind]

/-- A text of an operator in symbols is one of the symbols. -/
theorem mem_symbols (h : operator.NamedBy body) (hkind : operator.isSymbol = true) :
    (Text.lower body, operator) ∈ symbols := by
  cases h with
  | symbolic hsolid hsymbol => exact hsymbol
  | word hsolid hword =>
    rw [isSymbol_of_isWord hword] at hkind
    cases hkind
  | negated hdeny hsolid hblanks hne hword =>
    rw [isSymbol_negate_of_isWord hword] at hkind
    cases hkind

end NamedBy

end Operator

end ScopeQuery
