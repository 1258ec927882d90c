import ScopeQuery.Proofs.CutTemplates

/-!
# Quoted literals in templates

A quoted literal is opaque: a template with a literal in it is tokenized as the part before it,
the literal as a text, and the part after it. In front of the literal a quote ends what is read
as the end of the template would, and the span that starts there is closed by the first quote
that is neither escaped nor doubled.
-/

namespace ScopeQuery

namespace Segment

/-- The segment with its position, if it has one, counted from another one. -/
def shifted (count : Nat) : Segment → Segment
  | .tag (.position i) style => .tag (.position (count + i)) style
  | part => part

end Segment

namespace Template

/-- Segments with neighbouring texts joined. -/
def joinTexts (parts : List Segment) : List Segment := parts.foldr Segment.onto []

/-- What can stand between the quotes of a literal: characters other than the quote and the
backslash, characters other than a line feed behind a backslash, and doubled quotes. -/
inductive LiteralBody (quote : Char) : List Char → Prop where
  /-- Nothing. -/
  | nil : LiteralBody quote []
  /-- A character that stands for itself. -/
  | plain {c : Char} {rest : List Char} (hquote : c ≠ quote) (hbackslash : c ≠ '\\')
      (hrest : LiteralBody quote rest) : LiteralBody quote (c :: rest)
  /-- A character behind a backslash. -/
  | escaped {c : Char} {rest : List Char} (hline : c ≠ '\n')
      (hrest : LiteralBody quote rest) : LiteralBody quote ('\\' :: c :: rest)
  /-- A doubled quote. -/
  | doubled {rest : List Char} (hrest : LiteralBody quote rest) :
      LiteralBody quote (quote :: quote :: rest)

/-- Characters that stand for themselves, in front of a body. -/
theorem LiteralBody.plain_append {quote : Char} (front : List Char) {rest : List Char}
    (hfront : ∀ c ∈ front, c ≠ quote ∧ c ≠ '\\') (hrest : LiteralBody quote rest) :
    LiteralBody quote (front ++ rest) := by
  induction front with
  | nil => exact hrest
  | cons c front ih =>
    obtain ⟨hquote, hbackslash⟩ := hfront c List.mem_cons_self
    exact .plain hquote hbackslash (ih fun d hd => hfront d (List.mem_cons_of_mem _ hd))

/-! ### The span of a literal -/

/-- A quote is no backslash and ends the tags before it. -/
theorem isQuote_cases {quote : Char} (h : isQuote quote = true) :
    quote ≠ '\\' ∧ endsTags quote = true := by
  obtain (rfl | rfl) | rfl : (quote = '\'' ∨ quote = '"') ∨ quote = '\x60' := by
    simpa [isQuote] using h
  all_goals decide +kernel

/-- The span of a literal ends with the quote behind its body, unless another one follows. -/
theorem quotedSpan?_literal {quote : Char} (hquote : quote ≠ '\\') {body : List Char}
    (hbody : LiteralBody quote body) {rest : List Char} (hrest : rest.head? ≠ some quote) :
    quotedSpan? quote (body ++ quote :: rest) = some (body ++ [quote], rest) := by
  induction hbody with
  | nil =>
    refine quotedSpan?_closing fun later hlater => absurd ?_ hrest
    rw [hlater]
    rfl
  | plain hplain hbackslash _ ih =>
    rw [List.cons_append, quotedSpan?_plain hplain hbackslash, ih]
    rfl
  | escaped hline _ ih =>
    rw [List.cons_append, List.cons_append, quotedSpan?_escaped hquote hline, ih]
    rfl
  | doubled _ ih =>
    rw [List.cons_append, List.cons_append]
    exact quotedSpan?_doubled ih

/-! ### Segments one after another -/

/-- Joining texts one after another joins them all. -/
theorem onto_text_append (first second : String) (rest : List Segment) :
    (Segment.text (first ++ second)).onto rest =
      (Segment.text first).onto ((Segment.text second).onto rest) := by
  rcases rest with _ | ⟨_ | _, tail⟩ <;> simp [Segment.onto, String.append_assoc]

/-- A segment that is put in front of segments is put in front of all that follows them. -/
theorem foldr_onto (part : Segment) (rest after : List Segment) :
    (part.onto rest).foldr Segment.onto after = part.onto (rest.foldr Segment.onto after) := by
  unfold Segment.onto
  split
  · exact onto_text_append _ _ _
  · rfl

/-- The segments of lexemes behind others are numbered from where these end, and neighbouring
texts are joined. -/
theorem segments_append (next : Nat) (lexed rest : List Lexeme) :
    segments next (lexed ++ rest) =
      (segments next lexed).foldr Segment.onto
        (segments (next + (positions (segments next lexed)).length) rest) := by
  induction lexed generalizing next with
  | nil => rfl
  | cons first lexed ih =>
    have hcount : next + (positions ((first.segment next).onto
        (segments (first.position next) lexed))).length =
          first.position next + (positions (segments (first.position next) lexed)).length := by
      rw [positions, Segment.position?_onto, position?_segment, Lexeme.position]
      split
      · rw [Option.toList_some, List.singleton_append, List.length_cons, ← positions]
        omega
      · rfl
    rw [List.cons_append, segments_cons, segments_cons, ih, foldr_onto, hcount]

/-- Segments of lexemes have no texts left to join. -/
theorem joinTexts_segments (next : Nat) (lexed : List Lexeme) :
    joinTexts (segments next lexed) = segments next lexed := by
  have happend := segments_append next lexed []
  rw [List.append_nil] at happend
  exact happend.symm

/-- Counting positions from another one commutes with joining texts. -/
theorem map_shifted_onto (count : Nat) (part : Segment) (rest : List Segment) :
    (part.onto rest).map (Segment.shifted count) =
      (part.shifted count).onto (rest.map (Segment.shifted count)) := by
  rcases part with words | ⟨i | name, style⟩ <;>
    rcases rest with _ | ⟨following | ⟨j | name, style⟩, tail⟩ <;> rfl

/-- The segments of lexemes from a position on are those from zero on, counted from there. -/
theorem segments_shifted (count next : Nat) (lexed : List Lexeme) :
    segments (count + next) lexed = (segments next lexed).map (Segment.shifted count) := by
  induction lexed generalizing next with
  | nil => rfl
  | cons first rest ih =>
    have hfirst : first.segment (count + next) = (first.segment next).shifted count := by
      rcases first with words | ⟨style, _ | ⟨c, name⟩⟩ <;> rfl
    have hposition : first.position (count + next) = count + first.position next := by
      rw [Lexeme.position, Lexeme.position]
      split <;> rfl
    rw [segments_cons, segments_cons, map_shifted_onto, hfirst, hposition, ih]

/-- Joining texts keeps the tags. -/
theorem tags_joinTexts (parts : List Segment) : tags (joinTexts parts) = tags parts := by
  induction parts with
  | nil => rfl
  | cons part rest ih =>
    rw [joinTexts, List.foldr_cons, ← joinTexts, tags_onto, ih]
    exact (List.filterMap_append (l := [part])).symm

/-- A quoted literal is opaque. A template with a literal behind a text without quotes, whatever
stands in the literal and behind it, is tokenized as that text, the literal as a text and the rest,
with the positions of the rest counted on and neighbouring texts joined. Its tags are those before
and behind the literal. -/
theorem tokenize_literal (quote : Char) (hquote : isQuote quote = true) (lead body rest : String)
    (hlead : ∀ c ∈ lead.toList, isQuote c = false) (hbody : LiteralBody quote body.toList)
    (hrest : rest.toList.head? ≠ some quote) :
    tokenize (lead ++ quote.toString ++ body ++ quote.toString ++ rest) =
        joinTexts (tokenize lead ++ .text (quote.toString ++ body ++ quote.toString) ::
          (tokenize rest).map (Segment.shifted (positions (tokenize lead)).length)) ∧
      tags (tokenize (lead ++ quote.toString ++ body ++ quote.toString ++ rest)) =
        tags (tokenize lead) ++
          tags ((tokenize rest).map (Segment.shifted (positions (tokenize lead)).length)) := by
  have htokens : tokenize (lead ++ quote.toString ++ body ++ quote.toString ++ rest) =
      joinTexts (tokenize lead ++ .text (quote.toString ++ body ++ quote.toString) ::
        (tokenize rest).map (Segment.shifted (positions (tokenize lead)).length)) := by
    obtain ⟨hbackslash, hends⟩ := isQuote_cases hquote
    have hwhole : (lead ++ quote.toString ++ body ++ quote.toString ++ rest).toList =
        lead.toList ++ quote :: (body.toList ++ quote :: rest.toList) := by simp
    have hspan : lexemes (quote :: (body.toList ++ quote :: rest.toList)) =
        .text (quote :: (body.toList ++ [quote])) :: lexemes rest.toList := by
      rw [lexemes, lexeme, if_pos hquote, quotedSpan?_literal hbackslash hbody hrest]
    have hliteral : String.ofList (quote :: (body.toList ++ [quote])) =
        quote.toString ++ body ++ quote.toString := by simp [String.ext_iff]
    have hbehind : joinTexts
        ((tokenize rest).map (Segment.shifted (positions (tokenize lead)).length)) =
          segments (positions (tokenize lead)).length (lexemes rest.toList) := by
      rw [tokenize.eq_def rest, ← segments_shifted, joinTexts_segments, Nat.add_zero]
    rw [joinTexts, List.foldr_append, List.foldr_cons, ← joinTexts, hbehind, ← hliteral]
    rw [tokenize, hwhole, lexemes_append_of_endsTags hends hlead, hspan, segments_append,
      segments_cons, Nat.zero_add]
    rfl
  refine ⟨htokens, ?_⟩
  rw [htokens, tags_joinTexts]
  exact List.filterMap_append

/-- The tag, the doubled quote, the escaped quote and the braces in this literal stay text, and the
unnamed tag behind it follows the two before it. -/
theorem tokenize_literal_between_tags :
    tokenize ("f([], \x7b\x7d, " ++ '\''.toString ++ "[x] ''\\' \x7b\x7by\x7d\x7d" ++
      '\''.toString ++ ", [])") =
        [.text "f(", .tag (.position 0) .param, .text ", ", .tag (.position 1) .identifier,
          .text ", '[x] ''\\' \x7b\x7by\x7d\x7d', ", .tag (.position 2) .param, .text ")"] := by
  have hbody : LiteralBody '\'' "[x] ''\\' \x7b\x7by\x7d\x7d".toList :=
    .plain_append "[x] ".toList (by simp) (.doubled (.escaped (by decide)
      (.plain_append " \x7b\x7by\x7d\x7d".toList (by simp) .nil)))
  have hlead : ∀ c ∈ "f([], \x7b\x7d, ".toList, isQuote c = false := by simp [isQuote]
  rw [(tokenize_literal '\'' rfl "f([], \x7b\x7d, " _ ", [])" hlead hbody (by decide)).1]
  decide +kernel

end Template

end ScopeQuery
