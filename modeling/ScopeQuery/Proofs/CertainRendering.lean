import ScopeQuery.Proofs.RegroupedPredicates
import ScopeQuery.Proofs.SettledRendering
import ScopeQuery.Proofs.TemplateTags

/-!
# Certain renderings

Renderings that give a text in every session, whatever was bound before. A value always has a
text, an expression has one when each tag of its template has an argument that does, and a clause
of predicates has one when their fragments do.
-/

namespace ScopeQuery

/-- A rendering that gives a text in every session. -/
def AlwaysRenders (render : Session → Rendering) : Prop :=
  ∀ session, ∃ result, render session = .ok result

/-- A rendering that fails with the same error in every session. -/
def AlwaysFails (error : QueryError) (render : Session → Rendering) : Prop :=
  ∀ session, render session = .error error

section Filling

variable {renderTag : TagTarget → TagStyle → Session → Rendering} {segments : List Segment}

/-- A template is filled when every tag in it has a text. -/
theorem fill_alwaysRenders
    (h : ∀ target style, .tag target style ∈ segments →
      AlwaysRenders (renderTag target style)) : AlwaysRenders (fill renderTag segments) := by
  induction segments with
  | nil => exact fun session => ⟨_, rfl⟩
  | cons segment rest ih =>
    have hrest := ih fun target style hmem => h target style (List.mem_cons_of_mem _ hmem)
    intro session
    cases segment with
    | text text =>
      obtain ⟨result, hresult⟩ := hrest session
      exact ⟨_, by rw [fill, hresult]⟩
    | tag target style =>
      obtain ⟨⟨text, middle⟩, htag⟩ := h target style List.mem_cons_self session
      obtain ⟨result, hresult⟩ := hrest middle
      exact ⟨_, by rw [fill, htag]; dsimp only; rw [hresult]⟩

/-- A template in which one tag fails fails with its error, if every other tag has a text or
fails in the same way. -/
theorem fill_alwaysFails {error : QueryError}
    (h : ∀ target style, .tag target style ∈ segments →
      AlwaysRenders (renderTag target style) ∨ AlwaysFails error (renderTag target style))
    {failing : TagTarget} {written : TagStyle} (hmem : .tag failing written ∈ segments)
    (hfails : AlwaysFails error (renderTag failing written)) :
    AlwaysFails error (fill renderTag segments) := by
  induction segments with
  | nil => cases hmem
  | cons segment rest ih =>
    intro session
    have hrest : .tag failing written ∈ rest → AlwaysFails error (fill renderTag rest) :=
      ih fun target style hmem => h target style (List.mem_cons_of_mem _ hmem)
    cases segment with
    | text text =>
      have hmem : .tag failing written ∈ rest := by simpa using hmem
      rw [fill, hrest hmem session]
    | tag target style =>
      obtain hrenders | hfailed := h target style List.mem_cons_self
      · obtain ⟨⟨text, middle⟩, htag⟩ := hrenders session
        have hmem : .tag failing written ∈ rest := by
          obtain hfirst | hmem := List.mem_cons.1 hmem
          · obtain ⟨rfl, rfl⟩ : failing = target ∧ written = style := by simpa using hfirst
            cases htag.symm.trans (hfails session)
          · exact hmem
        rw [fill, htag]
        dsimp only
        rw [hrest hmem middle]
      · rw [fill, hfailed session]

end Filling

/-- An argument that has a text in the place of every tag. -/
def Argument.AlwaysRenders (argument : Argument) : Prop :=
  ∀ style, ScopeQuery.AlwaysRenders (argument.renderInto style)

/-- An expression that has a text in every session. -/
def Expression.AlwaysRenders (e : Expression) : Prop := ScopeQuery.AlwaysRenders e.renderInto

/-- Arguments that always have a text have one after another. -/
theorem renderItems_alwaysRender {items : List Argument} (h : ∀ item ∈ items, item.AlwaysRenders)
    (style : TagStyle) (session : Session) :
    ∃ result, renderItems items style session = .ok result := by
  induction items generalizing session with
  | nil => exact ⟨_, by rw [renderItems]⟩
  | cons item rest ih =>
    obtain ⟨⟨text, middle⟩, hitem⟩ := h item List.mem_cons_self style session
    obtain ⟨result, hresult⟩ := ih (fun item hmem => h item (List.mem_cons_of_mem _ hmem)) middle
    exact ⟨_, by rw [renderItems, hitem]; dsimp only; rw [hresult]⟩

namespace Argument

/-- A value always has a text. -/
theorem literal_alwaysRenders (value : Value) : (literal value).AlwaysRenders :=
  fun style session => ⟨_, by rw [renderInto]⟩

/-- A name always has a text. -/
theorem text_alwaysRenders (name : String) : (text name).AlwaysRenders :=
  literal_alwaysRenders (.string name)

/-- A list always has a text when its items do. -/
theorem list_alwaysRenders {items : List Argument} (h : ∀ item ∈ items, item.AlwaysRenders) :
    (list items).AlwaysRenders := fun style session => by
  obtain ⟨result, hresult⟩ := renderItems_alwaysRender h style session
  exact ⟨_, by rw [renderInto, hresult]⟩

/-- An expression always has a text in the place of a tag when it has one. -/
theorem expression_alwaysRenders {e : Expression} (h : e.AlwaysRenders) :
    (expression e).AlwaysRenders := fun style session => by
  obtain ⟨result, hresult⟩ := h session
  exact ⟨_, by rw [renderInto, hresult]⟩

/-- A sub-query always has a text when its statement has. -/
theorem statement_alwaysRenders {s : Statement} (h : ScopeQuery.AlwaysRenders s.renderInto) :
    (statement s).AlwaysRenders := fun style session => by
  obtain ⟨result, hresult⟩ := h session
  exact ⟨_, by rw [renderInto, hresult]⟩

end Argument

namespace Expression

/-- A template with an operand for each of its tags has an argument for each of them. -/
theorem argument?_of_placed {template : String} {styles : List TagStyle}
    {operands : List Argument}
    (htags : Template.tags (Template.tokenize template) = Template.placed 0 styles)
    (hlength : styles.length = operands.length) {target : TagTarget} {style : TagStyle}
    (hmem : .tag target style ∈ Template.tokenize template) :
    ∃ operand ∈ operands, (ofTemplate template operands).argument? target = some operand := by
  rw [← Template.mem_tags, htags] at hmem
  obtain ⟨i, rfl, hstyle⟩ := Template.position_of_mem_placed hmem
  have hi : i < operands.length := by
    rw [← hlength]
    exact (List.getElem?_eq_some_iff.1 hstyle).1
  exact ⟨operands[i], List.getElem_mem hi, by simp [argument?, ofTemplate, hi]⟩

/-- A template always has a text when there is an operand for each of its tags and the operands
always have one. -/
theorem alwaysRenders_of_placed {template : String} (styles : List TagStyle)
    {operands : List Argument}
    (htags : Template.tags (Template.tokenize template) = Template.placed 0 styles)
    (hlength : styles.length = operands.length) (h : ∀ operand ∈ operands, operand.AlwaysRenders) :
    (ofTemplate template operands).AlwaysRenders := by
  have htemplate : (ofTemplate template operands).template = some template := rfl
  intro session
  rw [renderInto_of_template htemplate]
  refine fill_alwaysRenders (fun target style hmem => ?_) session
  obtain ⟨operand, hoperand, hfound⟩ := argument?_of_placed htags hlength hmem
  intro session
  rw [renderTag, hfound]
  exact h operand hoperand style session

end Expression

/-! ### Predicates -/

/-- The fragment of a comparison is a template with an operand for each tag. The operands are the
field, the value, and the list of the value. -/
theorem comparisonExpression_shape {dialect : Dialect} {field value : Argument}
    {operator : Option Operator} {e : Expression}
    (h : comparisonExpression dialect field operator value = .ok e) :
    ∃ template styles operands, e = .ofTemplate template operands ∧
      Template.tags (Template.tokenize template) = Template.placed 0 styles ∧
      styles.length = operands.length ∧
      ∀ operand ∈ operands, operand = field ∨ operand = value ∨ operand = .list [value] := by
  unfold comparisonExpression at h
  split at h
  · unfold nullTest at h
    split at h
    · cases h
    · split at h <;> cases h
      · exact ⟨_, [.soft], _, rfl, by decide +kernel, rfl, by simp⟩
      · exact ⟨_, [.soft], _, rfl, by decide +kernel, rfl, by simp⟩
  · split at h
    · split at h
      · rename_i negated _
        cases h
        unfold membership
        split
        · refine ⟨_, [], _, rfl, ?_, rfl, by simp⟩
          cases negated <;> decide +kernel
        · split
          · exact ⟨_, [.soft, .param], _, rfl, by decide +kernel, rfl, by simp⟩
          · exact ⟨_, [.soft, .param], _, rfl, by decide +kernel, rfl, by simp⟩
      · cases h
    · cases h
      have hcompared : comparedValue (operator.getD .eq) value = value ∨
          comparedValue (operator.getD .eq) value = .list [value] := by
        unfold comparedValue
        split <;> simp
      refine ⟨_, _, _, rfl, tags_comparisonTemplate _ _, rfl, ?_⟩
      obtain hcompared | hcompared := hcompared <;> simp [hcompared]

/-- The fragment of a comparison always has a text when its operands do. -/
theorem comparisonExpression_alwaysRenders {dialect : Dialect} {field value : Argument}
    {operator : Option Operator} {e : Expression}
    (h : comparisonExpression dialect field operator value = .ok e)
    (hfield : field.AlwaysRenders) (hvalue : value.AlwaysRenders) : e.AlwaysRenders := by
  obtain ⟨template, styles, operands, rfl, htags, hlength, hoperands⟩ :=
    comparisonExpression_shape h
  refine Expression.alwaysRenders_of_placed styles htags hlength fun operand hmem => ?_
  obtain rfl | rfl | rfl := hoperands operand hmem
  · exact hfield
  · exact hvalue
  · exact Argument.list_alwaysRenders (by simpa using hvalue)

section Leaves

variable {P : Expression → Prop} {dialect : Dialect}

mutual

/-- What holds of the fragments of a predicate's comparisons and of its other fragments, and of
joined parts when it holds of these, holds of the expression of the predicate. -/
theorem Predicate.toExpression_induction
    (hjoin : ∀ {junction parts e}, (∀ part ∈ parts, P part) → joinParts junction parts = some e →
      P e)
    (predicate : Predicate)
    (hcomparison : ∀ {field operator value e}, .comparison field operator value ∈ predicate.leaves →
      comparisonExpression dialect field operator value = .ok e → P e)
    (hfragment : ∀ {argument}, .fragment argument ∈ predicate.leaves →
      P (.ofTemplate "[]" [argument])) :
    ∀ e, predicate.toExpression dialect = .ok (some e) → P e := by
  intro e he
  match predicate with
  | .comparison field operator value =>
    rw [Predicate.toExpression] at he
    split at he
    · rename_i found hfound
      cases he
      exact hcomparison (by simp [Predicate.leaves]) hfound
    · cases he
  | .fragment argument =>
    cases he
    exact hfragment (by simp [Predicate.leaves])
  | .group junction parts =>
    rw [Predicate.toExpression] at he
    rw [Predicate.leaves] at hcomparison hfragment
    split at he
    · rename_i found hfound
      exact hjoin (predicateExpressions_induction hjoin parts hcomparison hfragment hfound)
        (Except.ok.inj he)
    · cases he

/-- The same for the expressions of several predicates. -/
theorem predicateExpressions_induction
    (hjoin : ∀ {junction parts e}, (∀ part ∈ parts, P part) → joinParts junction parts = some e →
      P e)
    (predicates : List Predicate)
    (hcomparison : ∀ {field operator value e},
      .comparison field operator value ∈ Predicate.allLeaves predicates →
      comparisonExpression dialect field operator value = .ok e → P e)
    (hfragment : ∀ {argument}, .fragment argument ∈ Predicate.allLeaves predicates →
      P (.ofTemplate "[]" [argument]))
    {parts : List Expression} (hparts : predicateExpressions dialect predicates = .ok parts) :
    ∀ part ∈ parts, P part := by
  match predicates with
  | [] =>
    rw [predicateExpressions] at hparts
    cases hparts
    simp
  | predicate :: rest =>
    rw [Predicate.allLeaves] at hcomparison hfragment
    rw [predicateExpressions] at hparts
    split at hparts
    · cases hparts
    · rename_i found hfound
      split at hparts
      · cases hparts
      · rename_i others hothers
        cases hparts
        intro part hpart
        obtain hpart | hpart := List.mem_append.1 hpart
        · have hsome : found = some part := Option.mem_toList.1 hpart
          exact Predicate.toExpression_induction hjoin predicate
            (fun hmem => hcomparison (List.mem_append_left _ hmem))
            (fun hmem => hfragment (List.mem_append_left _ hmem)) part (hsome ▸ hfound)
        · exact predicateExpressions_induction hjoin rest
            (fun hmem => hcomparison (List.mem_append_right _ hmem))
            (fun hmem => hfragment (List.mem_append_right _ hmem)) hothers part hpart

end

end Leaves

/-- What predicates come to in every dialect: an error, or expressions that always have a text. -/
def ComeTo (predicates : List Predicate) : Option QueryError → Prop
  | some error => ∀ dialect, predicateExpressions dialect predicates = .error error
  | none => ∀ dialect, ∃ parts, predicateExpressions dialect predicates = .ok parts ∧
      ∀ part ∈ parts, part.AlwaysRenders

/-- Predicates behind others are only asked when these are not refused. -/
theorem ComeTo.append {predicates rest : List Predicate} {refusal following : Option QueryError}
    (h : ComeTo predicates refusal) (hrest : ComeTo rest following) :
    ComeTo (predicates ++ rest) (refusal.or following) := by
  cases refusal with
  | some error =>
    intro dialect
    rw [predicateExpressions_append, h dialect]
    rfl
  | none =>
    cases following with
    | some error =>
      intro dialect
      obtain ⟨parts, hparts, -⟩ := h dialect
      rw [predicateExpressions_append, hparts, hrest dialect]
      rfl
    | none =>
      intro dialect
      obtain ⟨parts, hparts, hrenders⟩ := h dialect
      obtain ⟨others, hothers, hothersRender⟩ := hrest dialect
      refine ⟨parts ++ others, ?_, fun part hpart => ?_⟩
      · rw [predicateExpressions_append, hparts, hothers]
        rfl
      · exact (List.mem_append.1 hpart).elim (hrenders part) (hothersRender part)

/-- An expression as a predicate comes to a fragment that always has a text when it has. -/
theorem Expression.predicate_comesTo {e : Expression} (h : e.AlwaysRenders) :
    ComeTo [e.predicate] none := by
  intro dialect
  have hpart : (Expression.ofTemplate "[]" [.expression e]).AlwaysRenders :=
    Expression.alwaysRenders_of_placed [.param] (by decide +kernel) rfl
      (by simpa using Argument.expression_alwaysRenders h)
  exact ⟨[.ofTemplate "[]" [.expression e]], rfl, by simpa using hpart⟩

/-- A clause of predicates fails or leaves a session as its fragments do one after another: the
groups around them change neither the error nor the session. -/
theorem predicateClause_sessionAfter_leaves (s : Statement) (part : PredicateClause)
    (session : Session) :
    (s.clauseRendering part.clause session).map (·.2) =
      (predicateExpressions session.dialect (Predicate.allLeaves (part.predicates s))).bind
        fun parts => sessionAfter (parts.map .expression) session := by
  rw [predicateClause_sessionAfter]
  have htrail := Predicate.sameTrail_allLeaves session.dialect (part.predicates s)
  generalize predicateExpressions session.dialect (part.predicates s) = found at htrail
  generalize predicateExpressions session.dialect
    (Predicate.allLeaves (part.predicates s)) = made at htrail
  cases htrail with
  | failed error => rfl
  | made hafter => exact hafter session

/-- A clause of predicates fails as its fragments do. -/
theorem predicateClause_alwaysFails {s : Statement} (part : PredicateClause) {error : QueryError}
    (h : ComeTo (Predicate.allLeaves (part.predicates s)) (some error)) :
    AlwaysFails error (s.clauseRendering part.clause) := by
  intro session
  have hrefused := predicateClause_sessionAfter_leaves s part session
  rw [h session.dialect] at hrefused
  cases hclause : s.clauseRendering part.clause session with
  | error other =>
    rw [hclause] at hrefused
    exact congrArg Except.error (Except.error.inj hrefused)
  | ok result =>
    rw [hclause] at hrefused
    cases hrefused

/-- A clause of predicates has a text when its fragments have. -/
theorem predicateClause_alwaysRenders {s : Statement} (part : PredicateClause)
    (h : ComeTo (Predicate.allLeaves (part.predicates s)) none) :
    AlwaysRenders (s.clauseRendering part.clause) := by
  intro session
  obtain ⟨parts, hparts, hrenders⟩ := h session.dialect
  have hitems : ∀ item ∈ parts.map Argument.expression, item.AlwaysRenders := by
    simpa using fun part hpart => Argument.expression_alwaysRenders (hrenders part hpart)
  obtain ⟨result, hresult⟩ := renderItems_alwaysRender hitems .param session
  have hrendered := predicateClause_sessionAfter_leaves s part session
  rw [hparts] at hrendered
  dsimp only [Except.bind] at hrendered
  rw [sessionAfter, hresult] at hrendered
  cases hclause : s.clauseRendering part.clause session with
  | error other =>
    rw [hclause] at hrendered
    cases hrendered
  | ok result => exact ⟨result, rfl⟩

end ScopeQuery
