import ScopeQuery.Proofs.LosslessTemplates

/-!
# Parts of items

An item of a clause is words and arguments in turn. The template of several items has an unnamed
tag for each argument, and filling it renders the parts one after another: the tags are numbered
as the arguments are, wherever the items end. Nothing is asked of the arguments, which may be
names and values of any characters.
-/

namespace ScopeQuery

/-- A part of an item of a clause. -/
inductive ItemPart where
  /-- Words of the clause itself. -/
  | words (text : String)
  /-- An argument, written as a tag of the style asks. -/
  | operand (style : TagStyle) (argument : Argument)

namespace ItemPart

/-- The part in a template. -/
def template : ItemPart → String
  | .words text => text
  | .operand style _ => String.ofList (style.enclose [])

/-- The argument of the part. -/
def argument? : ItemPart → Option Argument
  | .words _ => none
  | .operand _ argument => some argument

/-- The text of the part. -/
def renderInto : ItemPart → Session → Rendering
  | .words text, session => .ok (text, session)
  | .operand style argument, session => argument.renderInto style session

/-- Whether the words of the part stand for themselves in a template. -/
def isPlain : ItemPart → Bool
  | .words text => text.toList.all Template.isPlain
  | .operand _ _ => true

end ItemPart

/-- The text of parts one after another. -/
def renderParts : List ItemPart → Session → Rendering
  | [], session => .ok ("", session)
  | part :: rest, session =>
    match part.renderInto session with
    | .ok (text, after) => (renderParts rest after).behind text
    | .error error => .error error

/-- The texts of items, each rendered in the session that the one before leaves. -/
def renderEach : List (List ItemPart) → Session → Except QueryError (List String × Session)
  | [], session => .ok ([], session)
  | item :: rest, session =>
    match renderParts item session with
    | .ok (text, after) => (renderEach rest after).map fun (texts, last) => (text :: texts, last)
    | .error error => .error error

/-- The parts of items with a separator between neighbours. -/
def joinedParts (separator : String) : List (List ItemPart) → List ItemPart
  | [] => []
  | [item] => item
  | item :: next :: rest => item ++ .words separator :: joinedParts separator (next :: rest)

/-- The template of parts. -/
def partsTemplate : List ItemPart → String
  | [] => ""
  | part :: rest => part.template ++ partsTemplate rest

/-- The arguments of parts, in order. -/
def partsOperands (parts : List ItemPart) : List Argument := parts.filterMap ItemPart.argument?

/-- The expression of parts. -/
def Expression.ofParts (parts : List ItemPart) : Expression :=
  .ofTemplate (partsTemplate parts) (partsOperands parts)

/-- The item of parts. -/
def ClauseItem.ofParts (parts : List ItemPart) : ClauseItem :=
  ⟨partsTemplate parts, partsOperands parts⟩

/-! ### Parts one after another -/

/-- Parts behind others are rendered in the session that these leave. -/
theorem renderParts_append (parts rest : List ItemPart) (session : Session) :
    renderParts (parts ++ rest) session =
      match renderParts parts session with
      | .ok (text, after) => (renderParts rest after).behind text
      | .error error => .error error := by
  induction parts generalizing session with
  | nil => exact (Rendering.behind_empty _).symm
  | cons part parts ih =>
    rw [List.cons_append, renderParts, renderParts]
    cases part.renderInto session with
    | error error => rfl
    | ok result =>
      dsimp only
      rw [ih]
      cases renderParts parts result.2 with
      | error error => rfl
      | ok following => exact (Rendering.behind_append _ _ _).symm

/-- Items that are rendered have as many texts. -/
theorem renderEach_length {items : List (List ItemPart)} {session after : Session}
    {texts : List String} (h : renderEach items session = .ok (texts, after)) :
    texts.length = items.length := by
  induction items generalizing session texts with
  | nil =>
    cases h
    rfl
  | cons item rest ih =>
    rw [renderEach] at h
    split at h
    · rename_i middle _
      cases hrest : renderEach rest middle with
      | error error =>
        rw [hrest] at h
        cases h
      | ok result =>
        rw [hrest] at h
        cases h
        rw [List.length_cons, List.length_cons, ih hrest]
    · cases h

/-- Joined parts are rendered as the items, with the separator between their texts. -/
theorem renderParts_joinedParts (separator : String) (items : List (List ItemPart))
    (session : Session) :
    renderParts (joinedParts separator items) session =
      (renderEach items session).map fun (texts, after) =>
        (Text.joined separator texts, after) := by
  induction items generalizing session with
  | nil => rfl
  | cons item rest ih =>
    rw [renderEach]
    cases rest with
    | nil =>
      rw [joinedParts]
      cases renderParts item session with
      | error error => rfl
      | ok result => rfl
    | cons next rest =>
      rw [joinedParts, renderParts_append]
      cases renderParts item session with
      | error error => rfl
      | ok result =>
        dsimp only
        rw [renderParts, ItemPart.renderInto]
        dsimp only
        rw [ih]
        cases hrest : renderEach (next :: rest) result.2 with
        | error error => rfl
        | ok results =>
          -- Another item follows, so the texts of the rest are not empty.
          obtain ⟨texts, after⟩ := results
          cases texts with
          | nil => simpa using renderEach_length hrest
          | cons text texts =>
            simp [Rendering.behind, Except.map, Text.joined, String.append_assoc]

/-! ### Templates of parts -/

/-- A tag without a name is a lexeme, in every style. -/
theorem Template.lexemes_enclose (style : TagStyle) (rest : List Char) :
    lexemes (style.enclose [] ++ rest) = .tag style [] :: lexemes rest := by
  cases style with
  | param => exact lexemes_brackets rest
  | identifier =>
    have hname : Unicode.isWord '\x7d' = false := by decide +kernel
    have hlexeme : lexeme '\x7b' ('\x7d' :: rest) = (.tag .identifier [], rest) := by
      simp [lexeme, isQuote, softTag?, plainTag?, spanName, hname]
    change lexemes ('\x7b' :: '\x7d' :: rest) = _
    rw [lexemes, hlexeme]
  | soft => exact lexemes_doubleBraces rest

/-- A template of parts is filled with the texts of the parts, wherever the tags start to be
numbered. -/
theorem fill_parts {renderTag : TagTarget → TagStyle → Session → Rendering}
    {parts : List ItemPart} (hplain : ∀ part ∈ parts, part.isPlain = true) (next : Nat)
    (session : Session)
    (htag : ∀ i argument, (partsOperands parts)[i]? = some argument →
      ∀ style, renderTag (.position (next + i)) style = argument.renderInto style) :
    fill renderTag (Template.segments next (Template.lexemes (partsTemplate parts).toList))
      session = renderParts parts session := by
  induction parts generalizing next session with
  | nil =>
    change fill renderTag (Template.segments next (Template.lexemes [])) session = _
    rw [Template.lexemes]
    rfl
  | cons part rest ih =>
    have hrest : ∀ later ∈ rest, later.isPlain = true :=
      fun later hlater => hplain later (List.mem_cons_of_mem _ hlater)
    rw [partsTemplate, String.toList_append, renderParts]
    cases part with
    | words text =>
      rw [ItemPart.template, Template.lexemes_append_of_isPlain (hplain _ List.mem_cons_self),
        fill_chars, String.ofList_toList, ih hrest next session htag]
      rfl
    | operand style argument =>
      have hfirst : renderTag (.position next) style = argument.renderInto style :=
        htag 0 argument rfl style
      have hlater (i : Nat) (later : Argument) (h : (partsOperands rest)[i]? = some later)
          (style : TagStyle) :
          renderTag (.position (next + 1 + i)) style = later.renderInto style := by
        rw [Nat.add_assoc, Nat.add_comm 1]
        exact htag (i + 1) later h style
      rw [ItemPart.template, String.toList_ofList, Template.lexemes_enclose, fill_unnamed hfirst,
        ItemPart.renderInto]
      cases argument.renderInto style session with
      | error error => rfl
      | ok result =>
        dsimp only
        rw [ih hrest (next + 1) result.2 hlater]

/-- The expression of parts is rendered as the parts are, when their words stand for
themselves. -/
theorem Expression.ofParts_renderInto {parts : List ItemPart}
    (hplain : ∀ part ∈ parts, part.isPlain = true) (session : Session) :
    (ofParts parts).renderInto session = renderParts parts session := by
  have htemplate : (ofParts parts).template = some (partsTemplate parts) := rfl
  rw [renderInto_of_template htemplate, Template.tokenize]
  refine fill_parts hplain 0 session fun i argument h style => ?_
  funext after
  have hfound : (ofParts parts).argument? (.position (0 + i)) = some argument := by
    rw [Nat.zero_add]
    exact h
  rw [renderTag, hfound]

/-- The template of parts behind others. -/
theorem partsTemplate_append (parts rest : List ItemPart) :
    partsTemplate (parts ++ rest) = partsTemplate parts ++ partsTemplate rest := by
  induction parts with
  | nil => simp [partsTemplate]
  | cons part parts ih =>
    rw [List.cons_append, partsTemplate, partsTemplate, ih, String.append_assoc]

/-- The template of joined parts. -/
theorem partsTemplate_joinedParts (separator : String) (items : List (List ItemPart)) :
    partsTemplate (joinedParts separator items) =
      Text.joined separator (items.map partsTemplate) := by
  induction items with
  | nil => rfl
  | cons item rest ih =>
    cases rest with
    | nil => rfl
    | cons next rest =>
      rw [joinedParts, partsTemplate_append, partsTemplate, ih]
      simp [ItemPart.template, Text.joined, String.append_assoc]

/-- The operands of joined parts are those of the items. -/
theorem partsOperands_joinedParts (separator : String) (items : List (List ItemPart)) :
    partsOperands (joinedParts separator items) = items.flatMap partsOperands := by
  induction items with
  | nil => rfl
  | cons item rest ih =>
    cases rest with
    | nil => simp [joinedParts]
    | cons next rest =>
      rw [joinedParts, partsOperands, List.filterMap_append, List.filterMap_cons_none rfl,
        ← partsOperands, ← partsOperands, ih, List.flatMap_cons (x := item)]

/-- The parts of joined items stand for themselves when those of the items do. -/
theorem isPlain_joinedParts {separator : String}
    (hseparator : separator.toList.all Template.isPlain = true) {items : List (List ItemPart)}
    (hitems : ∀ item ∈ items, ∀ part ∈ item, part.isPlain = true) :
    ∀ part ∈ joinedParts separator items, part.isPlain = true := by
  induction items with
  | nil => simp [joinedParts]
  | cons item rest ih =>
    have hitem := hitems item List.mem_cons_self
    cases rest with
    | nil => exact hitem
    | cons next rest =>
      have hrest := ih fun later hlater => hitems later (List.mem_cons_of_mem _ hlater)
      intro part hpart
      rw [joinedParts, List.mem_append, List.mem_cons] at hpart
      obtain hpart | rfl | hpart := hpart
      · exact hitem part hpart
      · exact hseparator
      · exact hrest part hpart

/-- A part of an item is among the joined parts. -/
theorem mem_joinedParts {separator : String} {items : List (List ItemPart)} {item : List ItemPart}
    {part : ItemPart} (hitem : item ∈ items) (h : part ∈ item) :
    part ∈ joinedParts separator items := by
  induction items with
  | nil => cases hitem
  | cons first rest ih =>
    cases rest with
    | nil =>
      obtain rfl := List.mem_singleton.1 hitem
      exact h
    | cons next rest =>
      rw [joinedParts, List.mem_append, List.mem_cons]
      obtain rfl | hitem := List.mem_cons.1 hitem
      · exact .inl h
      · exact .inr (.inr (ih hitem))

end ScopeQuery
