import Mathlib.Data.List.Chain
import ScopeQuery.Proofs.TemplateTags

/-!
# Templates without loss

The segments of a template, written back with every tag in its own brackets, are the template.
Texts are as long as they can be and hold no tag, and the unnamed tags are numbered in order
over all three kinds of brackets. The lexemes of a template say all of this already; joining
neighbouring texts keeps it.
-/

namespace ScopeQuery

/-- A name between the brackets of a style. -/
def TagStyle.enclose (style : TagStyle) (name : List Char) : List Char :=
  match style with
  | .param => '[' :: (name ++ [']'])
  | .identifier => '\x7b' :: (name ++ ['\x7d'])
  | .soft => '\x7b' :: '\x7b' :: (name ++ ['\x7d', '\x7d'])

/-! ### Joining texts -/

namespace Segment

/-- Whether the segment is a text. -/
def isText : Segment → Bool
  | .text _ => true
  | .tag _ _ => false

/-- The characters that the segment is written with. -/
def spelled : Segment → List Char
  | .text words => words.toList
  | .tag (.position _) style => style.enclose []
  | .tag (.name name) style => style.enclose name.toList

/-- The position of an unnamed tag. -/
def position? : Segment → Option Nat
  | .tag (.position i) _ => some i
  | _ => none

/-- Whether the segment is a text or a name without characters. -/
def isBlank : Segment → Bool
  | .text words => words.isEmpty
  | .tag (.position _) _ => false
  | .tag (.name name) _ => name.isEmpty

/-- Two segments that are not both texts. -/
def Apart (first second : Segment) : Prop := ¬(first.isText = true ∧ second.isText = true)

/-- The segment in front of others; a text is joined with a text that follows. -/
def onto (part : Segment) (rest : List Segment) : List Segment :=
  match part, rest with
  | .text words, .text following :: tail => .text (words ++ following) :: tail
  | part, rest => part :: rest

/-- Joining texts loses no character. -/
theorem spelled_onto (part : Segment) (rest : List Segment) :
    (part.onto rest).flatMap spelled = part.spelled ++ rest.flatMap spelled := by
  unfold onto
  split
  · simp [spelled]
  · rfl

/-- Joining texts keeps the positions of tags. -/
theorem position?_onto (part : Segment) (rest : List Segment) :
    (part.onto rest).filterMap position? = part.position?.toList ++ rest.filterMap position? := by
  unfold onto
  split
  · rfl
  · cases hposition : part.position? <;> simp [hposition]

/-- Joining texts leaves no two side by side if there were none. -/
theorem isChain_onto {part : Segment} {rest : List Segment} (h : rest.IsChain Apart) :
    (part.onto rest).IsChain Apart := by
  unfold onto
  split
  · -- The joined text stands where the following one stood.
    rename_i words following tail
    cases tail with
    | nil => exact .singleton _
    | cons next tail =>
      obtain ⟨hnext, htail⟩ := List.isChain_cons_cons.1 h
      exact List.isChain_cons_cons.2 ⟨hnext, htail⟩
  · rename_i hother
    cases rest with
    | nil => exact .singleton _
    | cons next tail =>
      refine List.isChain_cons_cons.2 ⟨fun htexts => ?_, h⟩
      cases part with
      | text words =>
        cases next with
        | text following => exact hother words following tail rfl rfl
        | tag target style => exact absurd htexts.2 Bool.false_ne_true
      | tag target style => exact absurd htexts.1 Bool.false_ne_true

/-- A segment of joined ones is one of the rest, or one that was put in front. -/
theorem mem_onto {part found : Segment} {rest : List Segment} (h : found ∈ part.onto rest) :
    (∃ tail, part.onto rest = found :: tail) ∨ found ∈ rest := by
  unfold onto at h ⊢
  split at h
  · obtain rfl | hlater := List.mem_cons.1 h
    · exact .inl ⟨_, rfl⟩
    · exact .inr (List.mem_cons_of_mem _ hlater)
  · obtain rfl | hlater := List.mem_cons.1 h
    · exact .inl ⟨_, rfl⟩
    · exact .inr hlater

/-- Joining texts makes no segment blank. -/
theorem isBlank_onto {part : Segment} {rest : List Segment} (hpart : part.isBlank = false)
    (hrest : ∀ found ∈ rest, found.isBlank = false) :
    ∀ found ∈ part.onto rest, found.isBlank = false := by
  intro found hfound
  unfold onto at hfound
  split at hfound
  · rename_i words following tail
    obtain rfl | hlater := List.mem_cons.1 hfound
    · simp_all [isBlank]
    · exact hrest found (List.mem_cons_of_mem _ hlater)
  · obtain rfl | hlater := List.mem_cons.1 hfound
    · exact hpart
    · exact hrest found hlater

end Segment

namespace Template

/-- The positions of the unnamed tags among segments, in order. -/
def positions (parts : List Segment) : List Nat := parts.filterMap Segment.position?

/-- A segment in front of others has its tag in front of theirs. -/
theorem tags_onto (part : Segment) (rest : List Segment) :
    tags (part.onto rest) = tags [part] ++ tags rest := by
  rcases part with words | ⟨target, style⟩ <;>
    rcases rest with _ | ⟨following | ⟨later, other⟩, tail⟩ <;> rfl

/-! ### Lexemes -/

/-- The characters of a lexeme. -/
def Lexeme.spelled : Lexeme → List Char
  | .text words => words
  | .tag style name => style.enclose name

/-- Whether the lexeme is a text. -/
def Lexeme.isText : Lexeme → Bool
  | .text _ => true
  | .tag _ _ => false

/-- Whether the lexeme is a tag without a name. -/
def Lexeme.isUnnamed : Lexeme → Bool
  | .text _ => false
  | .tag _ name => name.isEmpty

/-- A lexeme and the text after it are the text it was read from. -/
theorem lexeme_spelled (c : Char) (rest : List Char) :
    (lexeme c rest).1.spelled ++ (lexeme c rest).2 = c :: rest := by
  unfold lexeme
  split
  · split
    · rename_i body tail hspan
      simp [Lexeme.spelled, quotedSpan?_append hspan]
    · rfl
  · split
    · rename_i hbrace
      subst hbrace
      split
      · rename_i name tail htag
        simp [softTag?_append htag, Lexeme.spelled, TagStyle.enclose]
      · split
        · rename_i name tail htag
          simp [plainTag?_append htag, Lexeme.spelled, TagStyle.enclose]
        · rfl
    · split
      · rename_i hbracket
        subst hbracket
        split
        · rename_i name tail htag
          simp [plainTag?_append htag, Lexeme.spelled, TagStyle.enclose]
        · rfl
      · rfl

/-- The lexemes of a text are the text. -/
theorem lexemes_spelled (text : List Char) : (lexemes text).flatMap Lexeme.spelled = text := by
  fun_induction lexemes text with
  | case1 => rfl
  | case2 c rest ih => rw [List.flatMap_cons, ih, lexeme_spelled]

/-- No lexeme is an empty text. -/
theorem ne_nil_of_mem_lexemes {text words : List Char} (h : .text words ∈ lexemes text) :
    words ≠ [] := by
  fun_induction lexemes text with
  | case1 => cases h
  | case2 c rest ih =>
    obtain hfirst | hlater := List.mem_cons.1 h
    · rintro rfl
      have hspelled := congrArg List.length (lexeme_spelled c rest)
      have hrest := lexeme_length c rest
      rw [← hfirst] at hspelled
      simp only [Lexeme.spelled, List.nil_append, List.length_cons] at hspelled
      omega
    · exact ih hlater

/-! ### Segments -/

/-- The segment of a lexeme when the next unnamed tag takes a position. -/
def Lexeme.segment (next : Nat) : Lexeme → Segment
  | .text words => .text (String.ofList words)
  | .tag style name =>
    .tag (if name.isEmpty then .position next else .name (String.ofList name)) style

/-- The position of the next unnamed tag after a lexeme. -/
def Lexeme.position (next : Nat) (part : Lexeme) : Nat := if part.isUnnamed then next + 1 else next

/-- A lexeme is put in front of the segments of the lexemes after it. -/
theorem segments_cons (next : Nat) (first : Lexeme) (rest : List Lexeme) :
    segments next (first :: rest) =
      (first.segment next).onto (segments (first.position next) rest) := by
  cases first with
  | text words =>
    rw [segments]
    split
    · rename_i hrest
      rw [Lexeme.position, Lexeme.isUnnamed, if_neg Bool.false_ne_true, hrest]
      rfl
    · rename_i hother
      rw [Lexeme.position, Lexeme.isUnnamed, if_neg Bool.false_ne_true]
      cases hrest : segments next rest with
      | nil => rfl
      | cons part tail =>
        cases part with
        | text following => exact absurd hrest (hother following tail)
        | tag target style => rfl
  | tag style name =>
    rw [segments, Lexeme.segment, Lexeme.position, Lexeme.isUnnamed]
    split <;> rfl

/-- The segment of a lexeme is written as the lexeme is. -/
theorem spelled_segment (next : Nat) (part : Lexeme) :
    (part.segment next).spelled = part.spelled := by
  rcases part with words | ⟨style, _ | ⟨c, name⟩⟩ <;>
    simp [Lexeme.segment, Segment.spelled, Lexeme.spelled]

/-- The segment of an unnamed tag has the next position. -/
theorem position?_segment (next : Nat) (part : Lexeme) :
    (part.segment next).position? = if part.isUnnamed then some next else none := by
  rcases part with words | ⟨style, _ | ⟨c, name⟩⟩ <;> rfl

section Segments

variable {next : Nat}

/-- The segments of lexemes are written as the lexemes are. -/
theorem segments_spelled (lexed : List Lexeme) :
    (segments next lexed).flatMap Segment.spelled = lexed.flatMap Lexeme.spelled := by
  induction lexed generalizing next with
  | nil => rfl
  | cons first rest ih =>
    rw [segments_cons, Segment.spelled_onto, ih, spelled_segment, List.flatMap_cons]

/-- No two texts are side by side among the segments of lexemes. -/
theorem segments_isChain (lexed : List Lexeme) : (segments next lexed).IsChain Segment.Apart := by
  induction lexed generalizing next with
  | nil => exact .nil
  | cons first rest ih =>
    rw [segments_cons]
    exact Segment.isChain_onto ih

/-- The unnamed tags are numbered in order. -/
theorem positions_segments (lexed : List Lexeme) :
    positions (segments next lexed) = List.range' next (lexed.countP Lexeme.isUnnamed) := by
  induction lexed generalizing next with
  | nil => rfl
  | cons first rest ih =>
    rw [segments_cons, positions, Segment.position?_onto, ← positions, ih, position?_segment,
      Lexeme.position, List.countP_cons]
    split
    · rw [List.range'_succ]
      rfl
    · rfl

/-- No segment of lexemes is blank when no text among them is. -/
theorem segments_not_blank {lexed : List Lexeme}
    (h : ∀ words, .text words ∈ lexed → words ≠ []) :
    ∀ part ∈ segments next lexed, part.isBlank = false := by
  induction lexed generalizing next with
  | nil => simp [segments]
  | cons first rest ih =>
    have hfirst : (first.segment next).isBlank = false := by
      rcases first with words | ⟨style, _ | ⟨c, name⟩⟩
      · have hwords := h words List.mem_cons_self
        simpa [Lexeme.segment, Segment.isBlank, String.ext_iff] using hwords
      · rfl
      · simp [Lexeme.segment, Segment.isBlank, String.ext_iff]
    rw [segments_cons]
    exact Segment.isBlank_onto hfirst
      (ih fun words hwords => h words (List.mem_cons_of_mem _ hwords))

/-- Texts alone have no tag. -/
theorem tags_segments_texts {lexed : List Lexeme} (h : ∀ part ∈ lexed, part.isText = true) :
    tags (segments next lexed) = [] := by
  induction lexed with
  | nil => rfl
  | cons first rest ih =>
    cases first with
    | text words =>
      rw [tags_segments_text]
      exact ih fun part hpart => h part (List.mem_cons_of_mem _ hpart)
    | tag style name => cases h _ List.mem_cons_self

end Segments

/-! ### Texts on their own -/

/-- A name that ends inside a text ends there whatever follows. -/
theorem spanName_append_of_ne_nil (text more : List Char) (h : (spanName text).2 ≠ []) :
    spanName (text ++ more) = ((spanName text).1, (spanName text).2 ++ more) := by
  have hstops : (text.takeWhile Unicode.isWord).length ≠ text.length := by
    intro hlength
    have hwhole := congrArg List.length (spanName_append text)
    rw [List.length_append, spanName, hlength] at hwhole
    exact h (List.length_eq_zero_iff.1 (by simpa [spanName] using hwhole))
  have hdrops : ¬(text.dropWhile Unicode.isWord).isEmpty = true := by
    simpa [spanName] using h
  rw [spanName, List.takeWhile_append, List.dropWhile_append, if_neg hstops, if_neg hdrops,
    spanName]

/-- A tag in double braces is one whatever follows it. -/
theorem softTag?_append_of_some {text name tail : List Char} (more : List Char)
    (h : softTag? text = some (name, tail)) :
    softTag? (text ++ more) = some (name, tail ++ more) := by
  unfold softTag? at h
  split at h
  · rename_i rest
    split at h
    · rename_i found hclosed
      obtain ⟨rfl, rfl⟩ : (spanName rest).1 = name ∧ found = tail := by simpa using h
      have hspan := spanName_append_of_ne_nil rest more (by simp [hclosed])
      simp [softTag?, hspan, hclosed]
    · cases h
  · cases h

/-- A tag in single brackets is one whatever follows it. -/
theorem plainTag?_append_of_some {close : Char} {text name tail : List Char} (more : List Char)
    (h : plainTag? close text = some (name, tail)) :
    plainTag? close (text ++ more) = some (name, tail ++ more) := by
  unfold plainTag? at h
  split at h
  · rename_i c found hclosed
    split at h
    · rename_i hc
      obtain ⟨rfl, rfl⟩ : (spanName text).1 = name ∧ found = tail := by simpa using h
      have hspan := spanName_append_of_ne_nil text more (by simp [hclosed])
      simp [plainTag?, hspan, hclosed, hc]
    · cases h
  · cases h

/-- What is no tag in double braces in a text is none in its front. -/
theorem softTag?_eq_none_of_append {text more : List Char} (h : softTag? (text ++ more) = none) :
    softTag? text = none := by
  cases hfront : softTag? text with
  | none => rfl
  | some found => cases (softTag?_append_of_some more hfront).symm.trans h

/-- What is no tag in single brackets in a text is none in its front. -/
theorem plainTag?_eq_none_of_append {close : Char} {text more : List Char}
    (h : plainTag? close (text ++ more) = none) : plainTag? close text = none := by
  cases hfront : plainTag? close text with
  | none => rfl
  | some found => cases (plainTag?_append_of_some more hfront).symm.trans h

/-- A text lexeme is read from the front of a text as from the whole. -/
theorem lexeme_cut {c : Char} {words text rest more : List Char}
    (h : lexeme c text = (.text (c :: words), rest ++ more)) :
    lexeme c (words ++ rest) = (.text (c :: words), rest) := by
  have hsingle (hsame : (Lexeme.text [c], text) = (.text (c :: words), rest ++ more)) :
      [] = words ∧ text = rest ++ more := by simpa using hsame
  unfold lexeme at h ⊢
  split at h
  · rename_i hquote
    rw [if_pos hquote]
    split at h
    · rename_i body tail hspan
      obtain ⟨rfl, rfl⟩ : body = words ∧ tail = rest ++ more := by simpa using h
      rw [quotedSpan?_cut hspan]
    · rename_i hspan
      obtain ⟨rfl, rfl⟩ := hsingle h
      rw [List.nil_append]
      cases hfront : quotedSpan? c rest with
      | none => rfl
      | some span =>
        have hwhole := isSome_quotedSpan?_append more (by rw [hfront]; rfl)
        cases (congrArg Option.isSome hspan).symm.trans hwhole
  · rename_i hquote
    rw [if_neg hquote]
    split at h
    · rename_i hbrace
      rw [if_pos hbrace]
      split at h
      · cases h
      · rename_i hsoft
        split at h
        · cases h
        · rename_i hplain
          obtain ⟨rfl, rfl⟩ := hsingle h
          rw [List.nil_append, softTag?_eq_none_of_append hsoft,
            plainTag?_eq_none_of_append hplain]
    · rename_i hbrace
      rw [if_neg hbrace]
      split at h
      · rename_i hbracket
        rw [if_pos hbracket]
        split at h
        · cases h
        · rename_i hplain
          obtain ⟨rfl, rfl⟩ := hsingle h
          rw [List.nil_append, plainTag?_eq_none_of_append hplain]
      · rename_i hbracket
        rw [if_neg hbracket]
        obtain ⟨rfl, rfl⟩ := hsingle h
        rfl

/-- A text lexeme starts with the character it was read at. -/
theorem lexeme_text {c : Char} {rest words after : List Char}
    (h : lexeme c rest = (.text words, after)) :
    ∃ body, words = c :: body ∧ rest = body ++ after := by
  have hspelled := lexeme_spelled c rest
  have hmem : .text words ∈ lexemes (c :: rest) := by simp [lexemes, h]
  have hwords : words ≠ [] := ne_nil_of_mem_lexemes hmem
  rw [h] at hspelled
  cases words with
  | nil => exact absurd rfl hwords
  | cons d body =>
    obtain ⟨rfl, hrest⟩ := List.cons.inj hspelled
    exact ⟨body, rfl, hrest.symm⟩

/-- A text at the front of a template holds no tag when it stands alone. -/
theorem lexemes_of_front {text : List Char} {next : Nat} {words : String} {tail : List Segment}
    (h : segments next (lexemes text) = .text words :: tail) :
    (∃ more, text = words.toList ++ more) ∧
      ∀ part ∈ lexemes words.toList, part.isText = true := by
  fun_induction lexemes text generalizing next words tail with
  | case1 => cases h
  | case2 c rest ih =>
    rcases hfirst : lexeme c rest with ⟨first, after⟩
    rw [hfirst] at h ih
    rw [segments_cons] at h
    cases first with
    | text front =>
      obtain ⟨body, rfl, rfl⟩ := lexeme_text hfirst
      -- The text that is joined to the first lexeme, if one follows.
      obtain ⟨following, more, rfl, hfollowing, hwords⟩ : ∃ following more,
          after = following ++ more ∧ (∀ part ∈ lexemes following, part.isText = true) ∧
            words.toList = c :: (body ++ following) := by
        dsimp only [Lexeme.segment] at h
        unfold Segment.onto at h
        split at h
        · rename_i joined found others hjoined hrest
          obtain ⟨⟨more, hmore⟩, htexts⟩ := ih hrest
          cases hjoined
          cases h
          exact ⟨found.toList, more, hmore, htexts, by simp⟩
        · cases h
          exact ⟨[], after, rfl, by simp [lexemes], by simp⟩
      rw [hwords, lexemes, lexeme_cut hfirst]
      refine ⟨⟨more, by simp⟩, fun part hpart => ?_⟩
      obtain rfl | hlater := List.mem_cons.1 hpart
      · rfl
      · exact hfollowing part hlater
    | tag style name => cases h

/-- A text of a template holds no tag when it stands alone. -/
theorem lexemes_of_mem_segments {text : List Char} {next : Nat} {words : String}
    (h : .text words ∈ segments next (lexemes text)) :
    ∀ part ∈ lexemes words.toList, part.isText = true := by
  fun_induction lexemes text generalizing next with
  | case1 => cases h
  | case2 c rest ih =>
    have hwhole : lexemes (c :: rest) = (lexeme c rest).1 :: lexemes (lexeme c rest).2 := by
      rw [lexemes]
    rw [segments_cons] at h
    obtain ⟨tail, hfront⟩ | hlater := Segment.mem_onto h
    · rw [← segments_cons, ← hwhole] at hfront
      exact (lexemes_of_front hfront).2
    · exact ih hlater

/-- Tokenizing loses nothing. The segments of a template, each tag in its own brackets with its
name or with none, are written as the template; no segment is blank and no two texts are side by
side; the unnamed tags are numbered from zero in order, over all three kinds of brackets. No text
has a tag left in it. -/
theorem tokenize_lossless (template : String) :
    (tokenize template).flatMap Segment.spelled = template.toList ∧
      (∀ words, .text words ∈ tokenize template → words ≠ "") ∧
      (tokenize template).IsChain Segment.Apart ∧
      positions (tokenize template) = List.range (positions (tokenize template)).length ∧
      (∀ name style, .tag (.name name) style ∈ tokenize template → name ≠ "") ∧
      ∀ words, .text words ∈ tokenize template → tags (tokenize words) = [] := by
  have hfilled : ∀ part ∈ tokenize template, part.isBlank = false :=
    segments_not_blank fun words => ne_nil_of_mem_lexemes
  refine ⟨?_, fun words hwords => ?_, segments_isChain _, ?_, fun name style hname => ?_,
    fun words hwords => tags_segments_texts (lexemes_of_mem_segments hwords)⟩
  · rw [tokenize, segments_spelled, lexemes_spelled]
  · rintro rfl
    cases hfilled _ hwords
  · rw [tokenize, positions_segments, List.length_range', List.range_eq_range']
  · rintro rfl
    cases hfilled _ hname

example : tokenize "\x7b\x7b\x7bx\x7d\x7d\x7d'[" =
    [.text "\x7b", .tag (.name "x") .soft, .text "\x7d'["] := by
  decide +kernel

end Template

end ScopeQuery
