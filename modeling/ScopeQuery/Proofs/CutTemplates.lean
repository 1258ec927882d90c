import ScopeQuery.Proofs.LosslessTemplates

/-!
# Cut templates

A character that is in no tag, such as a quote, a blank or a semicolon, cuts a template without
quotes before it: what stands in front is read as if the template ended there. A long template
is so read in pieces.
-/

namespace ScopeQuery.Template

/-- Whether a character can neither be part of a name nor open or close a tag. -/
def endsTags (c : Char) : Bool :=
  c != '\x7b' && c != '\x7d' && c != '[' && c != ']' && !Unicode.isWord c

section Cut

variable {c : Char} (hends : endsTags c = true)
include hends

/-- A character that ends tags is no bracket and no part of a name. -/
theorem endsTags_cases :
    c ≠ '\x7b' ∧ c ≠ '\x7d' ∧ c ≠ '[' ∧ c ≠ ']' ∧ Unicode.isWord c = false := by
  simpa [endsTags, and_assoc] using hends

/-- A name ends where the template is cut as it does at the end. -/
theorem spanName_cut (text rest : List Char) :
    spanName (text ++ c :: rest) = ((spanName text).1, (spanName text).2 ++ c :: rest) := by
  obtain ⟨-, -, -, -, hword⟩ := endsTags_cases hends
  induction text with
  | nil => simp [spanName, hword]
  | cons d text ih =>
    simp only [spanName, Prod.mk.injEq] at ih
    cases hd : Unicode.isWord d <;> simp [spanName, hd, ih]

/-- No tag in double braces reaches over a cut. -/
theorem softTag?_cut (text rest : List Char) :
    softTag? (text ++ c :: rest) =
      (softTag? text).map fun (name, tail) => (name, tail ++ c :: rest) := by
  obtain ⟨hopening, hclosing, -, -, -⟩ := endsTags_cases hends
  cases text with
  | nil => simp [softTag?, hopening]
  | cons d text =>
    by_cases hd : d = '\x7b'
    · subst hd
      simp only [List.cons_append, softTag?, spanName_cut hends]
      rcases (spanName text).2 with _ | ⟨first, _ | ⟨second, tail⟩⟩
      · simp [hclosing]
      · simp [hclosing]
      · simp only [List.cons_append]
        split <;> simp_all
    · simp [softTag?, hd]

/-- No tag in single brackets reaches over a cut. -/
theorem plainTag?_cut {close : Char} (hclose : c ≠ close) (text rest : List Char) :
    plainTag? close (text ++ c :: rest) =
      (plainTag? close text).map fun (name, tail) => (name, tail ++ c :: rest) := by
  simp only [plainTag?, spanName_cut hends]
  rcases (spanName text).2 with _ | ⟨first, tail⟩
  · simp [hclose]
  · simp only [List.cons_append]
    split <;> simp_all

/-- A lexeme that is no quote ends where the template is cut as it does at the end. -/
theorem lexeme_append_of_endsTags {d : Char} (hd : isQuote d = false) (text rest : List Char) :
    lexeme d (text ++ c :: rest) = ((lexeme d text).1, (lexeme d text).2 ++ c :: rest) := by
  obtain ⟨-, hbrace, -, hbracket, -⟩ := endsTags_cases hends
  have hother : ¬isQuote d = true := by simp [hd]
  rw [lexeme, lexeme, if_neg hother, if_neg hother, softTag?_cut hends,
    plainTag?_cut hends hbrace, plainTag?_cut hends hbracket]
  split
  · cases softTag? text with
    | some found => rfl
    | none => cases plainTag? '\x7d' text <;> rfl
  · split
    · cases plainTag? ']' text <;> rfl
    · rfl

/-- A text without quotes has the lexemes in front of a cut that it has alone. -/
theorem lexemes_append_of_endsTags {text : List Char} (htext : ∀ d ∈ text, isQuote d = false)
    (rest : List Char) : lexemes (text ++ c :: rest) = lexemes text ++ lexemes (c :: rest) := by
  fun_induction lexemes text with
  | case1 => rfl
  | case2 d text ih =>
    have hafter : ∀ e ∈ (lexeme d text).2, isQuote e = false := by
      intro e he
      refine htext e ?_
      rw [← lexeme_spelled d text]
      exact List.mem_append_right _ he
    rw [List.cons_append, lexemes,
      lexeme_append_of_endsTags hends (htext d List.mem_cons_self), ih hafter, List.cons_append]

end Cut

/-- Whether a text has no quotes and ends outside of tags. -/
def endsOutside (text : List Char) : Bool :=
  text.all (fun c => !isQuote c) && text.getLast?.any endsTags

/-- A text ends outside of tags when its characters do. -/
theorem endsOutside_ofList {text : List Char} (h : endsOutside text = true) :
    endsOutside (String.ofList text).toList = true := by
  rwa [String.toList_ofList]

/-- A text that ends outside of tags has the lexemes in front of others that it has alone. -/
theorem lexemes_append_of_endsOutside {text : List Char} (h : endsOutside text = true)
    (rest : List Char) : lexemes (text ++ rest) = lexemes text ++ lexemes rest := by
  obtain ⟨hquotes, hlast⟩ : (∀ d ∈ text, isQuote d = false) ∧
      text.getLast?.any endsTags = true := by simpa [endsOutside] using h
  obtain ⟨c, hc, hends⟩ := (Option.any_eq_true _ _).1 hlast
  obtain ⟨front, rfl⟩ := List.getLast?_eq_some_iff.1 hc
  obtain ⟨hopening, -, hbracket, -, -⟩ := endsTags_cases hends
  have hquote : isQuote c = false := hquotes c (by simp)
  have hplain : isPlain c = true := by simp [isPlain, hquote, hopening, hbracket]
  have hfront : ∀ d ∈ front, isQuote d = false :=
    fun d hd => hquotes d (List.mem_append_left _ hd)
  rw [List.append_assoc, List.singleton_append, lexemes_append_of_endsTags hends hfront,
    lexemes_append_of_endsTags hends hfront, lexemes_cons_of_isPlain hplain,
    lexemes_cons_of_isPlain hplain, List.append_assoc, List.cons_append, lexemes.eq_def [],
    List.nil_append]

end ScopeQuery.Template
