import ScopeQuery.Proofs.SettledRendering

/-!
# Templates of joined arguments

A template that holds an empty tag for each argument, with plain text between the tags and
in front of them. It is filled with the texts of the arguments, rendered one after another:
no character of the plain text starts a tag or a quoted span, and the tags are numbered as
the arguments are.
-/

namespace ScopeQuery

namespace Template

/-- Whether a character stands for itself wherever it is. -/
def isPlain (c : Char) : Bool := !isQuote c && c != '\x7b' && c != '['

/-- A plain character is a lexeme of its own. -/
theorem lexemes_cons_of_isPlain {c : Char} (h : isPlain c = true) (rest : List Char) :
    lexemes (c :: rest) = .text [c] :: lexemes rest := by
  obtain ⟨⟨hquote, hbrace⟩, hbracket⟩ :
      (isQuote c = false ∧ ¬c = '\x7b') ∧ ¬c = '[' := by simpa [isPlain] using h
  rw [lexemes, lexeme, if_neg (by simp [hquote]), if_neg hbrace, if_neg hbracket]

/-- The characters of a plain text are lexemes of their own. -/
theorem lexemes_append_of_isPlain {text : List Char} (h : text.all isPlain = true)
    (rest : List Char) :
    lexemes (text ++ rest) = text.map (fun c => .text [c]) ++ lexemes rest := by
  induction text with
  | nil => rfl
  | cons c text ih =>
    obtain ⟨hc, htext⟩ : isPlain c = true ∧ text.all isPlain = true := by simpa using h
    rw [List.cons_append, lexemes_cons_of_isPlain hc, ih htext, List.map_cons, List.cons_append]

/-- An empty pair of brackets is a tag. -/
theorem lexemes_brackets (rest : List Char) :
    lexemes ('[' :: ']' :: rest) = .tag .param [] :: lexemes rest := by
  have hlexeme : lexeme '[' (']' :: rest) = (.tag .param [], rest) := by
    have hname : Unicode.isWord ']' = false := by decide +kernel
    simp [lexeme, isQuote, plainTag?, spanName, hname]
  rw [lexemes, hlexeme]

end Template

/-- A rendering with a text in front of it. -/
def Rendering.behind (lead : String) (rendering : Rendering) : Rendering :=
  rendering.map fun (text, after) => (lead ++ text, after)

/-- The empty text in front changes nothing. -/
theorem Rendering.behind_empty (rendering : Rendering) : rendering.behind "" = rendering := by
  cases rendering <;> simp [behind, Except.map]

/-- Texts are put in front one after the other. -/
theorem Rendering.behind_append (first second : String) (rendering : Rendering) :
    rendering.behind (first ++ second) = (rendering.behind second).behind first := by
  cases rendering <;> simp [behind, Except.map, String.append_assoc]

section Filling

open Template

variable {renderTag : TagTarget → TagStyle → Session → Rendering} {next : Nat}
  {rest : List Lexeme} {session : Session}

/-- A text of a template goes in front of what is filled in after it, though neighbouring
texts are joined before. -/
theorem fill_text (text : List Char) :
    fill renderTag (segments next (.text text :: rest)) session =
      (fill renderTag (segments next rest) session).behind (String.ofList text) := by
  rw [segments]
  split
  · rename_i following tail hrest
    rw [hrest, fill, fill]
    cases fill renderTag tail session with
    | error error => rfl
    | ok result => simp [Rendering.behind, Except.map, String.append_assoc]
  · rw [fill]
    cases fill renderTag (segments next rest) session <;> rfl

/-- The characters of a text go in front of what is filled in after them. -/
theorem fill_chars (text : List Char) :
    fill renderTag (segments next (text.map (fun c => .text [c]) ++ rest)) session =
      (fill renderTag (segments next rest) session).behind (String.ofList text) := by
  induction text with
  | nil => exact (Rendering.behind_empty _).symm
  | cons c text ih =>
    rw [List.map_cons, List.cons_append, fill_text, ih, ← Rendering.behind_append,
      ← String.ofList_append, List.singleton_append]

/-- An empty tag is filled with the next argument. -/
theorem fill_unnamed {argument : Argument} {style : TagStyle}
    (htag : renderTag (.position next) style = argument.renderInto style) :
    fill renderTag (segments next (.tag style [] :: rest)) session =
      match argument.renderInto style session with
      | .ok (text, after) => (fill renderTag (segments (next + 1) rest) after).behind text
      | .error error => .error error := by
  rw [segments, if_pos List.isEmpty_nil, fill, htag]
  cases argument.renderInto style session with
  | error error => rfl
  | ok result =>
    dsimp only
    cases fill renderTag (segments (next + 1) rest) result.2 <;> rfl

end Filling

/-- The template of arguments with a separator between neighbours. -/
def joinedBrackets (separator : String) (arguments : List Argument) : String :=
  Text.joined separator (arguments.map fun _ => "[]")

/-- Several arguments have as many texts. -/
theorem renderItems_length {items : List Argument} {style : TagStyle} {session after : Session}
    {texts : List String} (h : renderItems items style session = .ok (texts, after)) :
    texts.length = items.length := by
  induction items generalizing session texts with
  | nil =>
    rw [renderItems] at h
    cases h
    rfl
  | cons argument rest ih =>
    rw [renderItems] at h
    split at h
    · cases h
    · split at h
      · rename_i hrest
        cases h
        rw [List.length_cons, List.length_cons, ih hrest]
      · cases h

/-- Joined tags are filled with the joined texts of their arguments. -/
theorem fill_joinedBrackets {renderTag : TagTarget → TagStyle → Session → Rendering}
    {separator : String} (hplain : separator.toList.all Template.isPlain = true)
    (arguments : List Argument) (next : Nat) (session : Session)
    (htag : ∀ i argument, arguments[i]? = some argument →
      renderTag (.position (next + i)) .param = argument.renderInto .param) :
    fill renderTag
        (Template.segments next (Template.lexemes (joinedBrackets separator arguments).toList))
        session =
      (renderItems arguments .param session).map fun (texts, after) =>
        (Text.joined separator texts, after) := by
  induction arguments generalizing next session with
  | nil =>
    change fill renderTag (Template.segments next (Template.lexemes [])) session = _
    rw [Template.lexemes, renderItems]
    rfl
  | cons argument rest ih =>
    have hlater (i : Nat) (later : Argument) (h : rest[i]? = some later) :
        renderTag (.position (next + 1 + i)) .param = later.renderInto .param := by
      rw [Nat.add_assoc, Nat.add_comm 1]
      exact htag (i + 1) later h
    have hfirst : renderTag (.position next) .param = argument.renderInto .param :=
      htag 0 argument rfl
    rw [renderItems]
    cases rest with
    | nil =>
      have hjoined : (joinedBrackets separator [argument]).toList = ['[', ']'] := by
        simp [joinedBrackets, Text.joined]
      rw [hjoined, Template.lexemes_brackets, fill_unnamed hfirst, Template.lexemes]
      cases argument.renderInto .param session with
      | error error => rfl
      | ok result =>
        simp [renderItems, Template.segments, fill, Rendering.behind, Except.map, Text.joined]
    | cons following rest =>
      have hjoined : (joinedBrackets separator (argument :: following :: rest)).toList =
          '[' :: ']' :: (separator.toList ++
            (joinedBrackets separator (following :: rest)).toList) := by
        simp [joinedBrackets, Text.joined]
      rw [hjoined, Template.lexemes_brackets, fill_unnamed hfirst,
        Template.lexemes_append_of_isPlain hplain]
      cases argument.renderInto .param session with
      | error error => rfl
      | ok result =>
        dsimp only
        rw [fill_chars, ih _ _ hlater]
        cases hrest : renderItems (following :: rest) .param result.2 with
        | error error => rfl
        | ok results =>
          -- Another argument follows, so the texts of the rest are not empty.
          obtain ⟨texts, after⟩ := results
          cases texts with
          | nil => simpa using renderItems_length hrest
          | cons text texts =>
            simp [Rendering.behind, Except.map, Text.joined, String.append_assoc]

/-- An expression whose template is plain text and then a tag for each of its arguments
renders to the plain text and the joined texts of the arguments. -/
theorem Expression.renderInto_joinedBrackets {e : Expression} (lead separator : String)
    (htemplate : e.template = some (lead ++ joinedBrackets separator e.operands))
    (hlead : lead.toList.all Template.isPlain = true)
    (hplain : separator.toList.all Template.isPlain = true) (session : Session) :
    e.renderInto session =
      (renderItems e.operands .param session).map fun (texts, after) =>
        (lead ++ Text.joined separator texts, after) := by
  have htag (i : Nat) (argument : Argument) (h : e.operands[i]? = some argument) :
      e.renderTag (lead ++ joinedBrackets separator e.operands) (.position (0 + i)) .param =
        argument.renderInto .param := by
    funext after
    rw [Nat.zero_add, renderTag, argument?, h]
  rw [renderInto_of_template htemplate, Template.tokenize, String.toList_append,
    Template.lexemes_append_of_isPlain hlead, fill_chars, fill_joinedBrackets hplain _ _ _ htag]
  cases renderItems e.operands .param session with
  | error error => rfl
  | ok result => simp [Rendering.behind, Except.map]

end ScopeQuery
