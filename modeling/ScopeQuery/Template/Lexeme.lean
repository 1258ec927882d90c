import ScopeQuery.Template.Basic
import ScopeQuery.Unicode.Word

/-!
# Template lexemes

The first cut of a template: quoted spans, tags, and single characters that
belong to neither. A quoted span runs to its closing quote; inside it a
backslash takes the next character along unless that is a line end, and a
doubled quote is part of the span as long as a later quote closes it. A quote
without a closing one is an ordinary character.
-/

namespace ScopeQuery.Template

/-- A piece of a template before texts are joined and positions counted. -/
inductive Lexeme where
  /-- Characters that stand for themselves. -/
  | text (text : List Char)
  /-- A tag with the name between its brackets, perhaps empty. -/
  | tag (style : TagStyle) (name : List Char)
deriving DecidableEq

/-- The part of a quoted span after its opening quote, closing quote included,
and the text after the span. -/
def quotedSpan? (quote : Char) : List Char → Option (List Char × List Char)
  | [] => none
  | [c] => if c = quote then some ([c], []) else none
  | c :: d :: rest =>
    if c = quote then
      if d = quote then
        match quotedSpan? quote rest with
        | some (body, tail) => some (c :: d :: body, tail)
        | none => some ([c], d :: rest)
      else some ([c], d :: rest)
    else if c = '\\' then
      if d = '\n' then none
      else
        match quotedSpan? quote rest with
        | some (body, tail) => some (c :: d :: body, tail)
        | none => none
    else
      match quotedSpan? quote (d :: rest) with
      | some (body, tail) => some (c :: body, tail)
      | none => none

/-- The word characters at the front of a text, and what follows them. -/
def spanName (text : List Char) : List Char × List Char :=
  (text.takeWhile Unicode.isWord, text.dropWhile Unicode.isWord)

/-- The rest of a tag in double braces, after the first brace. -/
def softTag? : List Char → Option (List Char × List Char)
  | '\x7b' :: rest =>
    match (spanName rest).2 with
    | '\x7d' :: '\x7d' :: tail => some ((spanName rest).1, tail)
    | _ => none
  | _ => none

/-- The rest of a tag after its opening bracket, up to the closing one. -/
def plainTag? (close : Char) (rest : List Char) : Option (List Char × List Char) :=
  match (spanName rest).2 with
  | c :: tail => if c = close then some ((spanName rest).1, tail) else none
  | [] => none

/-- The quote characters of templates. -/
def isQuote (c : Char) : Bool := c == '\'' || c == '"' || c == '\x60'

/-- The lexeme that starts with a character, and the text after it. -/
def lexeme (c : Char) (rest : List Char) : Lexeme × List Char :=
  if isQuote c then
    match quotedSpan? c rest with
    | some (body, tail) => (.text (c :: body), tail)
    | none => (.text [c], rest)
  else if c = '\x7b' then
    match softTag? rest with
    | some (name, tail) => (.tag .soft name, tail)
    | none =>
      match plainTag? '\x7d' rest with
      | some (name, tail) => (.tag .identifier name, tail)
      | none => (.text [c], rest)
  else if c = '[' then
    match plainTag? ']' rest with
    | some (name, tail) => (.tag .param name, tail)
    | none => (.text [c], rest)
  else (.text [c], rest)

/-- A quoted span and the text after it make up the text they came from. -/
theorem quotedSpan?_append {quote : Char} {text body tail : List Char}
    (h : quotedSpan? quote text = some (body, tail)) : body ++ tail = text := by
  fun_induction quotedSpan? quote text generalizing body tail <;> grind

section QuotedSpans

variable {quote : Char}

/-- A quote with another one after it is part of a span that is closed later. -/
theorem quotedSpan?_doubled {rest body tail : List Char}
    (h : quotedSpan? quote rest = some (body, tail)) :
    quotedSpan? quote (quote :: quote :: rest) = some (quote :: quote :: body, tail) := by
  simp [quotedSpan?, h]

/-- A quote closes a span when no other one follows, or when nothing closes the span later. -/
theorem quotedSpan?_closing {rest : List Char}
    (h : ∀ later, rest = quote :: later → quotedSpan? quote later = none) :
    quotedSpan? quote (quote :: rest) = some ([quote], rest) := by
  cases rest with
  | nil => simp [quotedSpan?]
  | cons d later =>
    by_cases hd : d = quote
    · subst hd
      simp [quotedSpan?, h later rfl]
    · simp [quotedSpan?, hd]

/-- A backslash takes the next character along. -/
theorem quotedSpan?_escaped (hquote : quote ≠ '\\') {d : Char} (hd : d ≠ '\n')
    (rest : List Char) :
    quotedSpan? quote ('\\' :: d :: rest) =
      (quotedSpan? quote rest).map fun (body, tail) => ('\\' :: d :: body, tail) := by
  rw [quotedSpan?, if_neg hquote.symm, if_pos rfl, if_neg hd]
  cases quotedSpan? quote rest <;> rfl

/-- Any other character is part of the span. -/
theorem quotedSpan?_plain {c : Char} (hquote : c ≠ quote) (hbackslash : c ≠ '\\')
    (rest : List Char) :
    quotedSpan? quote (c :: rest) =
      (quotedSpan? quote rest).map fun (body, tail) => (c :: body, tail) := by
  cases rest with
  | nil => simp [quotedSpan?, hquote]
  | cons d rest =>
    rw [quotedSpan?, if_neg hquote, if_neg hbackslash]
    cases quotedSpan? quote (d :: rest) <;> rfl

end QuotedSpans

/-- A quote in front closes a span if no later one does. -/
theorem isSome_quotedSpan?_quote (quote : Char) (rest : List Char) :
    (quotedSpan? quote (quote :: rest)).isSome = true := by
  by_cases hclosed : ∃ later, rest = quote :: later ∧ (quotedSpan? quote later).isSome = true
  · obtain ⟨later, rfl, hlater⟩ := hclosed
    obtain ⟨⟨body, tail⟩, hspan⟩ := Option.isSome_iff_exists.1 hlater
    rw [quotedSpan?_doubled hspan]
    rfl
  · have hnone (later : List Char) (hrest : rest = quote :: later) :
        quotedSpan? quote later = none := by
      cases hlater : quotedSpan? quote later with
      | none => rfl
      | some span => exact absurd ⟨later, hrest, by rw [hlater]; rfl⟩ hclosed
    rw [quotedSpan?_closing hnone]
    rfl

/-- A text with a quoted span in front still has one when more text follows. -/
theorem isSome_quotedSpan?_append {quote : Char} {text : List Char} (more : List Char)
    (h : (quotedSpan? quote text).isSome = true) :
    (quotedSpan? quote (text ++ more)).isSome = true := by
  fun_induction quotedSpan? quote text with
  | case1 => cases h
  | case2 => exact isSome_quotedSpan?_quote quote more
  | case3 => cases h
  | case4 rest body tail hspan ih => exact isSome_quotedSpan?_quote _ _
  | case5 rest hspan ih => exact isSome_quotedSpan?_quote _ _
  | case6 rest hspan ih => exact isSome_quotedSpan?_quote _ _
  | case7 => cases h
  | case8 d rest hd body tail hspan hquote ih =>
    rw [List.cons_append, List.cons_append, quotedSpan?_escaped (Ne.symm hquote) hd,
      Option.isSome_map]
    exact ih (by rw [hspan]; rfl)
  | case9 => cases h
  | case10 c d rest hquote hbackslash body tail hspan ih =>
    rw [List.cons_append, quotedSpan?_plain hquote hbackslash, Option.isSome_map]
    exact ih (by rw [hspan]; rfl)
  | case11 => cases h

/-- A quoted span is found in the front of a text as in the whole. -/
theorem quotedSpan?_cut {quote : Char} {text body rest more : List Char}
    (h : quotedSpan? quote text = some (body, rest ++ more)) :
    quotedSpan? quote (body ++ rest) = some (body, rest) := by
  fun_induction quotedSpan? quote text generalizing body with
  | case1 => cases h
  | case2 =>
    obtain ⟨rfl, htail⟩ : [quote] = body ∧ [] = rest ++ more := by simpa using h
    obtain ⟨rfl, rfl⟩ := List.append_eq_nil_iff.1 htail.symm
    exact quotedSpan?_closing fun later hlater => by cases hlater
  | case3 => cases h
  | case4 later found tail hspan ih =>
    obtain ⟨rfl, rfl⟩ : quote :: quote :: found = body ∧ tail = rest ++ more := by simpa using h
    exact quotedSpan?_doubled (ih hspan)
  | case5 later hspan ih =>
    obtain ⟨rfl, htail⟩ : [quote] = body ∧ quote :: later = rest ++ more := by simpa using h
    refine quotedSpan?_closing fun front hrest => ?_
    -- What closes the span later in the front does so in the whole.
    subst hrest
    obtain ⟨-, rfl⟩ := List.cons.inj htail
    cases hfront : quotedSpan? quote front with
    | none => rfl
    | some span =>
      have hlater := isSome_quotedSpan?_append more (by rw [hfront]; rfl)
      cases (congrArg Option.isSome hspan).symm.trans hlater
  | case6 d later hd =>
    obtain ⟨rfl, htail⟩ : [quote] = body ∧ d :: later = rest ++ more := by simpa using h
    refine quotedSpan?_closing fun front hrest => ?_
    subst hrest
    exact absurd (List.cons.inj htail).1 hd
  | case7 => cases h
  | case8 d later hd found tail hspan hquote ih =>
    obtain ⟨rfl, rfl⟩ : '\\' :: d :: found = body ∧ tail = rest ++ more := by simpa using h
    rw [List.cons_append, List.cons_append, quotedSpan?_escaped (Ne.symm hquote) hd, ih hspan]
    rfl
  | case9 => cases h
  | case10 c d later hquote hbackslash found tail hspan ih =>
    obtain ⟨rfl, rfl⟩ : c :: found = body ∧ tail = rest ++ more := by simpa using h
    rw [List.cons_append, quotedSpan?_plain hquote hbackslash, ih hspan]
    rfl
  | case11 => cases h

/-- A name and the text after it make up the text they came from. -/
theorem spanName_append (text : List Char) :
    (spanName text).1 ++ (spanName text).2 = text := by
  simp [spanName, List.takeWhile_append_dropWhile]

/-- A tag in double braces is at least as long as its three later braces. -/
theorem softTag?_append {rest name tail : List Char}
    (h : softTag? rest = some (name, tail)) :
    rest = '\x7b' :: name ++ '\x7d' :: '\x7d' :: tail := by
  unfold softTag? at h
  split at h
  · rename_i text
    have hspan := spanName_append text
    split at h <;> grind
  · simp at h

/-- A tag in single brackets ends with its closing one. -/
theorem plainTag?_append {close : Char} {rest name tail : List Char}
    (h : plainTag? close rest = some (name, tail)) :
    rest = name ++ close :: tail := by
  have hspan := spanName_append rest
  unfold plainTag? at h
  split at h <;> grind

/-- No lexeme gives back more text than followed its first character. -/
theorem lexeme_length (c : Char) (rest : List Char) :
    (lexeme c rest).2.length ≤ rest.length := by
  unfold lexeme
  split
  · split
    · rename_i h
      have := congrArg List.length (quotedSpan?_append h)
      simp at this ⊢; omega
    · simp
  · split
    · split
      · rename_i h
        have := congrArg List.length (softTag?_append h)
        simp at this ⊢; omega
      · split
        · rename_i h
          have := congrArg List.length (plainTag?_append h)
          simp at this ⊢; omega
        · simp
    · split
      · split
        · rename_i h
          have := congrArg List.length (plainTag?_append h)
          simp at this ⊢; omega
        · simp
      · simp

/-- The lexemes of a template, from left to right. -/
def lexemes : List Char → List Lexeme
  | [] => []
  | c :: rest => (lexeme c rest).1 :: lexemes (lexeme c rest).2
termination_by text => text.length
decreasing_by
  have := lexeme_length c rest
  simp only [List.length_cons]
  omega

end ScopeQuery.Template
