import ScopeQuery.Proofs.CertainRendering

/-!
# Bound scalars

A driver takes null, truth values, numbers and texts. Rendering binds no other value when no
literal of the tree is an object or an array of arrays or objects: an array is bound item by item,
and where a tag asks for a name nothing is bound at all. What is said of a rendering is what it
keeps of the session, so it passes through templates, lists and sub-queries alike.
-/

namespace ScopeQuery

/-- A value that is null, a truth value, a number or a text. -/
inductive Value.Single : Value → Prop where
  /-- Null. -/
  | null : Single .null
  /-- A truth value. -/
  | bool (b : Bool) : Single (.bool b)
  /-- A number. -/
  | number (x : Number) : Single (.number x)
  /-- A text. -/
  | string (s : String) : Single (.string s)

/-- Every value but arrays and objects is a single one. -/
theorem Value.single_of_not_nested {value : Value} (h : Comparand.isNested value = false) :
    value.Single := by
  cases value with
  | null => exact .null
  | bool b => exact .bool b
  | number x => exact .number x
  | string s => exact .string s
  | array _ | object _ => cases h

/-- A value that is single or an array of single values. -/
def Value.Flat (value : Value) : Prop :=
  value.Single ∨ ∃ items, value = .array items ∧ ∀ item ∈ items, item.Single

/-- A session in which only single values are bound. -/
def Session.Single (session : Session) : Prop := ∀ param ∈ session.params, param.2.Single

/-- A rendering that binds single values only. -/
def BindsSingle (render : Session → Rendering) : Prop :=
  ∀ session text after, render session = .ok (text, after) → session.Single → after.Single

/-- An argument that binds single values only, in the place of every tag. -/
def Argument.BindsSingle (argument : Argument) : Prop :=
  ∀ style, ScopeQuery.BindsSingle (argument.renderInto style)

/-- An expression that binds single values only. -/
def Expression.BindsSingle (e : Expression) : Prop := ScopeQuery.BindsSingle e.renderInto

/-- A statement that binds single values only. -/
def Statement.BindsSingle (s : Statement) : Prop := ScopeQuery.BindsSingle s.renderInto

/-! ### Values -/

namespace Session

variable {session : Session}

/-- A single value is bound. -/
theorem Single.bind (hsession : session.Single) {value : Value} (hvalue : value.Single) :
    (session.bind value).2.Single := by
  unfold Session.bind
  split
  · exact hsession
  · intro param hparam
    obtain hparam | hparam := List.mem_append.1 hparam
    · exact hsession param hparam
    · obtain rfl := List.mem_singleton.1 hparam
      exact hvalue

/-- Single values are bound one after another. -/
theorem Single.bindAll (hsession : session.Single) {values : List Value}
    (hvalues : ∀ value ∈ values, value.Single) : (session.bindAll values).2.Single := by
  induction values generalizing session with
  | nil => exact hsession
  | cons value rest ih =>
    exact ih (hsession.bind (hvalues value List.mem_cons_self))
      fun value hmem => hvalues value (List.mem_cons_of_mem _ hmem)

/-- A flat value is written in the place of any tag. -/
theorem Single.writeValue (hsession : session.Single) {value : Value} (hvalue : value.Flat)
    (style : TagStyle) : (session.writeValue style value).2.Single := by
  cases style with
  | param =>
    obtain hsingle | ⟨items, rfl, hitems⟩ := hvalue
    · have hbind := hsession.bind hsingle
      cases hsingle <;> exact hbind
    · exact hsession.bindAll hitems
  | identifier | soft => cases value <;> exact hsession

end Session

/-! ### Arguments and expressions -/

/-- A template binds single values only when what its tags stand for does. -/
theorem fill_bindsSingle {renderTag : TagTarget → TagStyle → Session → Rendering}
    (h : ∀ target style, BindsSingle (renderTag target style)) (segments : List Segment) :
    BindsSingle (fill renderTag segments) := by
  induction segments with
  | nil =>
    intro session text after hfill hsession
    cases hfill
    exact hsession
  | cons segment rest ih =>
    intro session text after hfill hsession
    cases segment with
    | text prefixed =>
      rw [fill] at hfill
      split at hfill
      · rename_i tail final hrest
        cases hfill
        exact ih session tail _ hrest hsession
      · cases hfill
    | tag target style =>
      rw [fill] at hfill
      split at hfill
      · cases hfill
      · rename_i written middle htag
        split at hfill
        · rename_i tail final hrest
          cases hfill
          exact ih middle tail _ hrest (h target style session written middle htag hsession)
        · cases hfill

/-- Several arguments bind single values only when each of them does. -/
theorem renderItems_bindSingle {items : List Argument} (h : ∀ item ∈ items, item.BindsSingle)
    {style : TagStyle} {session after : Session} {texts : List String}
    (hrender : renderItems items style session = .ok (texts, after)) (hsession : session.Single) :
    after.Single := by
  induction items generalizing session texts with
  | nil =>
    rw [renderItems] at hrender
    cases hrender
    exact hsession
  | cons item rest ih =>
    rw [renderItems] at hrender
    split at hrender
    · cases hrender
    · rename_i text middle hitem
      split at hrender
      · rename_i others final hrest
        cases hrender
        exact ih (fun item hmem => h item (List.mem_cons_of_mem _ hmem)) hrest
          (h item List.mem_cons_self style session text middle hitem hsession)
      · cases hrender

namespace Argument

/-- A flat value binds itself or its items. -/
theorem literal_bindsSingle {value : Value} (h : value.Flat) : (literal value).BindsSingle := by
  intro style session text after hrender hsession
  rw [renderInto] at hrender
  have hafter := hsession.writeValue h style
  rw [Except.ok.inj hrender] at hafter
  exact hafter

/-- A name binds nothing that is not single. -/
theorem text_bindsSingle (name : String) : (text name).BindsSingle :=
  literal_bindsSingle (.inl (.string name))

/-- An expression in the place of a tag binds what it binds. -/
theorem expression_bindsSingle {e : Expression} (h : e.BindsSingle) :
    (expression e).BindsSingle := by
  intro style session text after hrender hsession
  rw [renderInto] at hrender
  split at hrender
  · rename_i body final hbody
    cases hrender
    exact h session body _ hbody hsession
  · cases hrender

/-- A sub-query binds what its statement binds. -/
theorem statement_bindsSingle {s : Statement} (h : s.BindsSingle) :
    (statement s).BindsSingle := by
  intro style session text after hrender hsession
  rw [renderInto] at hrender
  split at hrender
  · rename_i body final hbody
    cases hrender
    exact h session body _ hbody hsession
  · cases hrender

/-- A list binds what its items bind. -/
theorem list_bindsSingle {items : List Argument} (h : ∀ item ∈ items, item.BindsSingle) :
    (list items).BindsSingle := by
  intro style session text after hrender hsession
  rw [renderInto] at hrender
  split at hrender
  · rename_i texts final hitems
    cases hrender
    exact renderItems_bindSingle h hitems hsession
  · cases hrender

end Argument

namespace Expression

/-- An expression binds what the arguments of its tags bind. -/
theorem bindsSingle_of_arguments {e : Expression}
    (h : ∀ target argument, e.argument? target = some argument → argument.BindsSingle) :
    e.BindsSingle := by
  cases htemplate : e.template with
  | none =>
    intro session text after hrender
    rw [renderInto, htemplate] at hrender
    cases hrender
  | some template =>
    intro session text after hrender hsession
    rw [renderInto_of_template htemplate] at hrender
    refine fill_bindsSingle (fun target style => ?_) _ session text after hrender hsession
    intro session text after htag hsession
    unfold renderTag at htag
    split at htag
    · rename_i argument hfound
      exact h target argument hfound style session text after htag hsession
    · cases htag

/-- An expression without named arguments binds what its operands bind. -/
theorem bindsSingle_of_operands {template : Option String} {operands : List Argument}
    {wrapped : Bool} (h : ∀ operand ∈ operands, operand.BindsSingle) :
    BindsSingle ⟨template, operands, [], wrapped⟩ := by
  refine bindsSingle_of_arguments fun target argument hfound => ?_
  cases target with
  | position i => exact h argument (List.mem_of_getElem? hfound)
  | name name => cases hfound

end Expression

/-! ### Predicates -/

/-- A predicate whose fragment binds single values only, in every dialect. -/
def Predicate.BindsSingle (predicate : Predicate) : Prop :=
  ∀ dialect e, predicate.toExpression dialect = .ok (some e) → e.BindsSingle

namespace Predicate

/-- A comparison binds what its operands bind. -/
theorem comparison_bindsSingle {field value : Argument} (hfield : field.BindsSingle)
    (hvalue : value.BindsSingle) (operator : Option Operator) :
    (comparison field operator value).BindsSingle := by
  intro dialect e he
  rw [toExpression] at he
  split at he
  · rename_i found hfound
    cases he
    obtain ⟨template, styles, operands, rfl, -, -, hoperands⟩ := comparisonExpression_shape hfound
    refine Expression.bindsSingle_of_operands fun operand hmem => ?_
    obtain rfl | rfl | rfl := hoperands operand hmem
    · exact hfield
    · exact hvalue
    · exact Argument.list_bindsSingle (by simpa using hvalue)
  · cases he

/-- A fragment binds what its argument binds. -/
theorem fragment_bindsSingle {argument : Argument} (h : argument.BindsSingle) :
    (fragment argument).BindsSingle := by
  intro dialect e he
  rw [toExpression] at he
  cases he
  exact Expression.bindsSingle_of_operands (by simpa using h)

/-- Joined parts bind what the parts bind. -/
theorem joinParts_bindsSingle {junction : Junction} {parts : List Expression} {e : Expression}
    (h : ∀ part ∈ parts, part.BindsSingle) (he : joinParts junction parts = some e) :
    e.BindsSingle := by
  match parts with
  | [] => cases he
  | [part] =>
    cases he
    exact h _ List.mem_cons_self
  | first :: second :: rest =>
    cases he
    refine Expression.bindsSingle_of_operands fun operand hmem => ?_
    obtain ⟨part, hpart, rfl⟩ := List.mem_map.1 hmem
    exact Argument.expression_bindsSingle (h part hpart)

/-- Several predicates bind what their fragments bind. -/
theorem bindSingle_of_allLeaves (predicates : List Predicate)
    (h : ∀ leaf ∈ allLeaves predicates, leaf.BindsSingle) {dialect : Dialect}
    {parts : List Expression} (hparts : predicateExpressions dialect predicates = .ok parts) :
    ∀ part ∈ parts, part.BindsSingle :=
  predicateExpressions_induction joinParts_bindsSingle predicates
    (fun hleaf he => h _ hleaf dialect _ (by rw [toExpression, he]))
    (fun hleaf => h _ hleaf dialect _ rfl) hparts

end Predicate

/-! ### Clauses and statements -/

/-- A clause item whose operands bind single values only. -/
def ClauseItem.BindsSingle (item : ClauseItem) : Prop :=
  ∀ operand ∈ item.operands, operand.BindsSingle

section Lists

variable {items : List ClauseItem} (h : ∀ item ∈ items, item.BindsSingle)
include h

/-- A list clause binds what its items bind. -/
theorem listClause_bindsSingle (lead separator : String) :
    (listClause lead separator items).BindsSingle := by
  refine Expression.bindsSingle_of_operands fun operand hmem => ?_
  obtain ⟨item, hitem, hoperand⟩ := List.mem_flatMap.1 hmem
  exact h item hitem operand hoperand

/-- An optional clause binds what its items bind. -/
theorem optionalClause_bindsSingle (lead separator : String) :
    (optionalClause lead separator items).BindsSingle := by
  unfold optionalClause
  split
  · exact Expression.bindsSingle_of_operands (by simp)
  · exact listClause_bindsSingle h lead separator

end Lists

namespace ClauseItem

/-- A soft identifier binds what its argument binds. -/
theorem soft_bindsSingle {argument : Argument} (h : argument.BindsSingle) :
    (soft argument).BindsSingle := by
  intro operand hmem
  obtain rfl := List.mem_singleton.1 hmem
  exact h

/-- A table or field binds what its source binds. -/
theorem ofSource_bindsSingle {source : Source} (h : source.source.BindsSingle)
    (separator : String) : (ofSource separator source).BindsSingle := by
  unfold ofSource
  split
  · rename_i aliasName _
    split
    · exact soft_bindsSingle h
    · intro operand hmem
      simp only [List.mem_cons, List.not_mem_nil, or_false] at hmem
      obtain rfl | rfl := hmem
      · exact h
      · exact Argument.text_bindsSingle aliasName
  · exact soft_bindsSingle h

/-- A joined table binds what the expression it is joined on binds. -/
theorem ofJoin_bindsSingle {join : Join}
    (h : ∀ e, join.condition = .expression e → e.BindsSingle) : (ofJoin join).BindsSingle := by
  have hcondition : (ofJoinCondition join.condition).BindsSingle := by
    cases hjoin : join.condition with
    | columns left right =>
      intro operand hmem
      simp only [ofJoinCondition, List.mem_cons, List.not_mem_nil, or_false] at hmem
      obtain rfl | rfl := hmem
      · exact Argument.text_bindsSingle left
      · exact Argument.text_bindsSingle right
    | expression e =>
      intro operand hmem
      obtain rfl := List.mem_singleton.1 hmem
      exact Argument.expression_bindsSingle (h e hjoin)
  intro operand hmem
  simp only [ofJoin, List.mem_append] at hmem
  obtain (htable | halias) | hmem := hmem
  · obtain rfl := List.mem_singleton.1 htable
    exact Argument.text_bindsSingle join.table
  · split at halias
    · rename_i aliasName _
      obtain rfl := List.mem_singleton.1 halias
      exact Argument.text_bindsSingle aliasName
    · cases halias
  · exact hcondition operand hmem

/-- A sort key binds what its field binds. -/
theorem ofOrder_bindsSingle {item : OrderItem} (h : item.field.BindsSingle) :
    (ofOrder item).BindsSingle := by
  unfold ofOrder
  split <;> exact soft_bindsSingle h

/-- A set field binds what its value binds. -/
theorem ofAssignment_bindsSingle {assignment : Assignment} (h : assignment.value.BindsSingle) :
    (ofAssignment assignment).BindsSingle ∧ (ofSetField assignment).BindsSingle ∧
      (ofSetValue assignment).BindsSingle := by
  have hfield := Argument.text_bindsSingle assignment.field
  refine ⟨?_, soft_bindsSingle hfield, soft_bindsSingle h⟩
  intro operand hmem
  simp only [ofAssignment, List.mem_cons, List.not_mem_nil, or_false] at hmem
  obtain rfl | rfl := hmem
  · exact hfield
  · exact h

end ClauseItem

/-- A row limit binds its two counts. -/
theorem limitClause_bindsSingle (dialect : Dialect) (limit : RowLimit) :
    (limitClause dialect limit).BindsSingle := by
  refine Expression.bindsSingle_of_arguments fun target argument hfound => ?_
  have hmem : ∀ named ∈ (limitClause dialect limit).named, named.argument.BindsSingle := by
    intro named hnamed
    simp only [limitClause, List.mem_cons, List.not_mem_nil, or_false] at hnamed
    obtain rfl | rfl := hnamed
    · exact Argument.literal_bindsSingle (.inl (.number _))
    · exact Argument.literal_bindsSingle (.inl (.number _))
  cases target with
  | position i => cases hfound
  | name name =>
    obtain ⟨named, hnamed, rfl⟩ := Option.map_eq_some_iff.1 hfound
    exact hmem named (List.mem_of_find?_eq_some hnamed)

/-- A statement in which nothing that is written by a caller binds anything but single values. -/
structure Statement.OperandsBindSingle (s : Statement) : Prop where
  /-- The selected fields. -/
  fields : ∀ source ∈ s.fields, source.source.BindsSingle
  /-- The tables. -/
  tables : ∀ source ∈ s.tables, source.source.BindsSingle
  /-- The expressions that tables are joined on. -/
  joins : ∀ join ∈ s.joins, ∀ e, join.condition = .expression e → e.BindsSingle
  /-- The fragments of the predicates on rows. -/
  wheres : ∀ leaf ∈ Predicate.allLeaves s.wheres, leaf.BindsSingle
  /-- What rows are grouped by. -/
  groups : ∀ field ∈ s.groups, field.BindsSingle
  /-- The fragments of the predicates on groups. -/
  havings : ∀ leaf ∈ Predicate.allLeaves s.havings, leaf.BindsSingle
  /-- The sort keys. -/
  order : ∀ item ∈ s.order, item.field.BindsSingle
  /-- The values of set fields. -/
  assignments : ∀ assignment ∈ s.assignments, assignment.value.BindsSingle

namespace Statement

variable {s : Statement}

/-- A clause of predicates binds what their fragments bind. -/
theorem predicateClause_bindsSingle {lead : String} {predicates : List Predicate}
    {dialect : Dialect} {e : Expression}
    (h : ∀ leaf ∈ Predicate.allLeaves predicates, leaf.BindsSingle)
    (he : predicateClause lead predicates dialect = .ok e) : e.BindsSingle := by
  unfold predicateClause at he
  split at he
  · rename_i parts hparts
    cases he
    refine optionalClause_bindsSingle (fun item hitem operand hoperand => ?_) _ _
    obtain ⟨part, hpart, rfl⟩ := List.mem_map.1 hitem
    obtain rfl := List.mem_singleton.1 hoperand
    exact Argument.expression_bindsSingle
      (Predicate.bindSingle_of_allLeaves predicates h hparts part hpart)
  · cases he

/-- A clause of set fields binds what its items bind. -/
theorem assignmentClause_bindsSingle {item : Assignment → ClauseItem} {e : Expression}
    (h : ∀ assignment ∈ s.assignments, (item assignment).BindsSingle)
    (he : s.assignmentClause item = .ok e) : e.BindsSingle := by
  unfold assignmentClause at he
  split at he
  · cases he
  · cases he
    exact listClause_bindsSingle (by simpa using h) _ _

/-- Every clause binds what the operands of the statement bind. -/
theorem OperandsBindSingle.clause (h : s.OperandsBindSingle) {dialect : Dialect} {part : Clause}
    {e : Expression} (he : s.clause dialect part = .ok e) : e.BindsSingle := by
  have hplain : ∀ template, (Expression.ofTemplate template).BindsSingle :=
    fun template => Expression.bindsSingle_of_operands (by simp)
  cases part with
  | options =>
    cases he
    split <;> exact hplain _
  | fields =>
    cases he
    split
    · exact hplain _
    · refine listClause_bindsSingle (fun item hitem => ?_) _ _
      obtain ⟨source, hsource, rfl⟩ := List.mem_map.1 hitem
      exact ClauseItem.ofSource_bindsSingle (h.fields source hsource) _
  | tables =>
    cases he
    refine optionalClause_bindsSingle (fun item hitem => ?_) _ _
    obtain ⟨source, hsource, rfl⟩ := List.mem_map.1 hitem
    exact ClauseItem.ofSource_bindsSingle (h.tables source hsource) _
  | tableNoAlias =>
    rw [Statement.clause] at he
    split at he
    · cases he
    · rename_i table rest htables
      cases he
      have htable := h.tables table (by simp [htables])
      exact listClause_bindsSingle (by simpa using ClauseItem.soft_bindsSingle htable) _ _
  | joins =>
    cases he
    refine optionalClause_bindsSingle (fun item hitem => ?_) _ _
    obtain ⟨join, hjoin, rfl⟩ := List.mem_map.1 hitem
    exact ClauseItem.ofJoin_bindsSingle (h.joins join hjoin)
  | wheres => exact predicateClause_bindsSingle h.wheres he
  | groups =>
    cases he
    refine optionalClause_bindsSingle (fun item hitem => ?_) _ _
    obtain ⟨field, hfield, rfl⟩ := List.mem_map.1 hitem
    exact ClauseItem.soft_bindsSingle (h.groups field hfield)
  | havings => exact predicateClause_bindsSingle h.havings he
  | order =>
    cases he
    unfold orderClause
    split
    · exact hplain _
    · refine optionalClause_bindsSingle (fun item hitem => ?_) _ _
      obtain ⟨key, hkey, rfl⟩ := List.mem_map.1 hitem
      exact ClauseItem.ofOrder_bindsSingle (h.order key hkey)
  | limit =>
    cases he
    split
    · exact hplain _
    · exact limitClause_bindsSingle dialect _
  | assignments =>
    exact assignmentClause_bindsSingle (fun assignment hmem =>
      (ClauseItem.ofAssignment_bindsSingle (h.assignments assignment hmem)).1) he
  | setFields =>
    exact assignmentClause_bindsSingle (fun assignment hmem =>
      (ClauseItem.ofAssignment_bindsSingle (h.assignments assignment hmem)).2.1) he
  | setValues =>
    exact assignmentClause_bindsSingle (fun assignment hmem =>
      (ClauseItem.ofAssignment_bindsSingle (h.assignments assignment hmem)).2.2) he

/-- A statement binds what its operands bind. -/
theorem OperandsBindSingle.bindsSingle (h : s.OperandsBindSingle) : s.BindsSingle := by
  intro session text after hrender hsession
  rw [renderInto_eq_fill] at hrender
  refine fill_bindsSingle (fun target style => ?_) _ session text after hrender hsession
  intro session text after htag hsession
  unfold renderTag at htag
  split at htag
  · cases htag
  · split at htag
    · rename_i e hclause
      exact h.clause hclause session text after htag hsession
    · cases htag

/-- The parameters of a statement that binds single values only. -/
theorem BindsSingle.params (h : s.BindsSingle) {query : RenderedQuery}
    (hrender : s.render = .ok query) : ∀ param ∈ query.params, param.2.Single := by
  unfold render at hrender
  split at hrender
  · rename_i sql after hbound
    cases hrender
    exact h (.bound s.dialect) sql after hbound fun param hmem => by cases hmem
  · cases hrender

end Statement

end ScopeQuery
