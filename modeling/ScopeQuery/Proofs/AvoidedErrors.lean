import ScopeQuery.Proofs.CertainRendering
import ScopeQuery.Proofs.ItemParts

/-!
# Errors that do not arise

Renderings that fail with one error in no session of a dialect, though they may fail with others.
Values never fail, and templates, lists and fragments of predicates fail with the error only when
one of their arguments does. Rendering stays in its dialect, so an argument is asked in the same
dialect wherever it stands.
-/

namespace ScopeQuery

/-- A rendering that fails with the error in no session of the dialect. -/
def Avoids (dialect : Dialect) (error : QueryError) (render : Session → Rendering) : Prop :=
  ∀ session, session.dialect = dialect → render session ≠ .error error

/-- An argument that fails with the error in the place of no tag. -/
def Argument.Avoids (dialect : Dialect) (error : QueryError) (argument : Argument) : Prop :=
  ∀ style, ScopeQuery.Avoids dialect error (argument.renderInto style)

/-- A rendering whose session stays in its dialect. -/
def KeepsDialect (render : Session → Rendering) : Prop :=
  ∀ session text after, render session = .ok (text, after) → after.dialect = session.dialect

/-- Settled rendering stays in the dialect. -/
theorem keepsDialect_of_settled {render : Session → Rendering}
    (h : ∀ dialect, Settled dialect render) : KeepsDialect render := by
  intro session text after hrender
  obtain ⟨error, herror⟩ | ⟨pieces, hpieces⟩ := h session.dialect
  · cases (herror session rfl).symm.trans hrender
  · rw [hpieces session rfl] at hrender
    obtain ⟨-, rfl⟩ := Prod.mk.inj (Except.ok.inj hrender)
    exact session.write_dialect pieces

/-- Rendering an argument stays in the dialect. -/
theorem Argument.keepsDialect (argument : Argument) (style : TagStyle) :
    KeepsDialect (argument.renderInto style) :=
  keepsDialect_of_settled (argument.renderInto_settled style)

section Filling

variable {dialect : Dialect} {error : QueryError}

/-- A template does not fail with an error when none of its tags does. -/
theorem fill_avoids {renderTag : TagTarget → TagStyle → Session → Rendering}
    {segments : List Segment}
    (h : ∀ target style, .tag target style ∈ segments →
      KeepsDialect (renderTag target style) ∧ Avoids dialect error (renderTag target style)) :
    Avoids dialect error (fill renderTag segments) := by
  induction segments with
  | nil =>
    intro session _ hfails
    cases hfails
  | cons segment rest ih =>
    have hrest := ih fun target style hmem => h target style (List.mem_cons_of_mem _ hmem)
    intro session hsession hfails
    cases segment with
    | text text =>
      rw [fill] at hfails
      split at hfails
      · cases hfails
      · rename_i found hfound
        exact hrest session hsession (hfails ▸ hfound)
    | tag target style =>
      obtain ⟨hkeeps, havoids⟩ := h target style List.mem_cons_self
      rw [fill] at hfails
      split at hfails
      · rename_i found hfound
        exact havoids session hsession (hfails ▸ hfound)
      · rename_i text after htag
        split at hfails
        · cases hfails
        · rename_i found hfound
          exact hrest after ((hkeeps session text after htag).trans hsession) (hfails ▸ hfound)

/-- Several arguments do not fail with an error when none of them does. -/
theorem renderItems_avoids {items : List Argument}
    (h : ∀ item ∈ items, item.Avoids dialect error) (style : TagStyle) {session : Session}
    (hsession : session.dialect = dialect) : renderItems items style session ≠ .error error := by
  induction items generalizing session with
  | nil =>
    rw [renderItems]
    exact fun hfails => by cases hfails
  | cons argument rest ih =>
    have hfirst := h argument List.mem_cons_self style session hsession
    rw [renderItems]
    cases hargument : argument.renderInto style session with
    | error found =>
      rw [hargument] at hfirst
      exact fun hfails => hfirst (congrArg Except.error (Except.error.inj hfails))
    | ok result =>
      have hafter : result.2.dialect = dialect :=
        (argument.keepsDialect style session _ _ hargument).trans hsession
      have hrest := ih (fun item hitem => h item (List.mem_cons_of_mem _ hitem)) hafter
      dsimp only
      cases hitems : renderItems rest style result.2 with
      | error found =>
        rw [hitems] at hrest
        exact hrest
      | ok results => exact fun hfails => by cases hfails

/-- Parts do not fail with an error when none of their arguments does. -/
theorem renderParts_avoids {parts : List ItemPart}
    (h : ∀ argument ∈ partsOperands parts, argument.Avoids dialect error) :
    Avoids dialect error (renderParts parts) := by
  induction parts with
  | nil => exact fun session _ hfails => by cases hfails
  | cons part rest ih =>
    intro session hsession
    have hrest (text : String) {after : Session} (hafter : after.dialect = dialect)
        (hlater : ∀ argument ∈ partsOperands rest, argument.Avoids dialect error) :
        (renderParts rest after).behind text ≠ .error error := by
      have hsame := ih hlater after hafter
      cases hparts : renderParts rest after with
      | error found =>
        rw [hparts] at hsame
        exact hsame
      | ok result => exact fun hfails => by cases hfails
    cases part with
    | words text => exact hrest text hsession h
    | operand style argument =>
      obtain ⟨hargument, hlater⟩ := List.forall_mem_cons.1 h
      have hfirst := hargument style session hsession
      rw [renderParts, ItemPart.renderInto]
      cases hfound : argument.renderInto style session with
      | error found =>
        rw [hfound] at hfirst
        exact hfirst
      | ok result =>
        exact hrest _ ((argument.keepsDialect style session _ _ hfound).trans hsession) hlater

end Filling

namespace Argument

variable {dialect : Dialect} {error : QueryError}

/-- A value does not fail. -/
theorem literal_avoids (value : Value) : (literal value).Avoids dialect error := by
  intro style session _ hfails
  rw [renderInto] at hfails
  cases hfails

/-- A name does not fail. -/
theorem text_avoids (name : String) : (text name).Avoids dialect error :=
  literal_avoids (.string name)

/-- An expression fails in the place of a tag as it does elsewhere. -/
theorem expression_avoids {e : Expression} (h : ScopeQuery.Avoids dialect error e.renderInto) :
    (expression e).Avoids dialect error := by
  intro style session hsession hfails
  rw [renderInto] at hfails
  split at hfails
  · cases hfails
  · rename_i found hfound
    exact h session hsession (hfails ▸ hfound)

/-- A sub-query fails as its statement does. -/
theorem statement_avoids {s : Statement} (h : ScopeQuery.Avoids dialect error s.renderInto) :
    (statement s).Avoids dialect error := by
  intro style session hsession hfails
  rw [renderInto] at hfails
  split at hfails
  · cases hfails
  · rename_i found hfound
    exact h session hsession (hfails ▸ hfound)

/-- A list fails as its items do. -/
theorem list_avoids {items : List Argument} (h : ∀ item ∈ items, item.Avoids dialect error) :
    (list items).Avoids dialect error := by
  intro style session hsession hfails
  rw [renderInto] at hfails
  split at hfails
  · cases hfails
  · rename_i found hfound
    exact renderItems_avoids h style hsession (Except.error.inj hfails ▸ hfound)

end Argument

/-- An expression that does not fail with an error on its own fails with it in no session. -/
theorem Expression.avoids_of_render {e : Expression} {dialect : Dialect} {error : QueryError}
    (h : e.render dialect ≠ .error error) : Avoids dialect error e.renderInto := by
  intro session hsession hfails
  obtain ⟨found, hfound⟩ | ⟨pieces, hpieces⟩ := e.renderInto_settled dialect
  · refine h ?_
    rw [hfound session hsession] at hfails
    rw [render, hfound (.bound dialect) rfl, hfails]
  · cases (hpieces session hsession).symm.trans hfails

/-- An expression of a template with an operand for each tag fails as its operands do. -/
theorem Expression.avoids_of_placed {template : String} (styles : List TagStyle)
    {operands : List Argument} {dialect : Dialect} {error : QueryError}
    (htags : Template.tags (Template.tokenize template) = Template.placed 0 styles)
    (hlength : styles.length = operands.length)
    (h : ∀ operand ∈ operands, operand.Avoids dialect error) :
    Avoids dialect error (ofTemplate template operands).renderInto := by
  have htemplate : (ofTemplate template operands).template = some template := rfl
  intro session hsession
  rw [renderInto_of_template htemplate]
  refine fill_avoids (fun target style hmem => ?_) session hsession
  obtain ⟨operand, hoperand, hfound⟩ := argument?_of_placed htags hlength hmem
  have htag : (ofTemplate template operands).renderTag template target style =
      operand.renderInto style := by
    funext after
    rw [renderTag, hfound]
  rw [htag]
  exact ⟨operand.keepsDialect style, h operand hoperand style⟩

/-! ### Fragments -/

section Fragments

variable {dialect : Dialect} {error : QueryError}

/-- Joined parts fail as the parts do. -/
theorem joinParts_avoids {junction : Junction} {parts : List Expression} {e : Expression}
    (h : ∀ part ∈ parts, Avoids dialect error part.renderInto)
    (he : joinParts junction parts = some e) : Avoids dialect error e.renderInto := by
  match parts with
  | [] => cases he
  | [part] =>
    cases he
    exact h _ List.mem_cons_self
  | first :: second :: rest =>
    cases he
    have hplain : (" " ++ junction.sql ++ " ").toList.all Template.isPlain = true := by
      cases junction <;> decide
    have hitems : ∀ item ∈ (first :: second :: rest).map Argument.expression,
        item.Avoids dialect error :=
      List.forall_mem_map.2 fun part hpart => Argument.expression_avoids (h part hpart)
    intro session hsession
    rw [Expression.renderInto_joinedBrackets "" (" " ++ junction.sql ++ " ")
      (by simp [joinedBrackets, Function.comp_def]) rfl hplain]
    have hrender := renderItems_avoids hitems .param hsession
    cases hfound : renderItems ((first :: second :: rest).map .expression) .param session with
    | error found =>
      rw [hfound] at hrender
      exact fun hfails => hrender (congrArg Except.error (Except.error.inj hfails))
    | ok result => exact fun hfails => by cases hfails

/-- The fragment of a comparison fails as its operands do. -/
theorem comparisonExpression_avoids {field value : Argument} {operator : Option Operator}
    {e : Expression} (he : comparisonExpression dialect field operator value = .ok e)
    (hfield : field.Avoids dialect error) (hvalue : value.Avoids dialect error) :
    Avoids dialect error e.renderInto := by
  obtain ⟨template, styles, operands, rfl, htags, hlength, hoperands⟩ :=
    comparisonExpression_shape he
  refine Expression.avoids_of_placed _ htags hlength fun operand hmem => ?_
  obtain rfl | rfl | rfl := hoperands operand hmem
  · exact hfield
  · exact hvalue
  · exact Argument.list_avoids (by simpa using hvalue)

end Fragments

end ScopeQuery
