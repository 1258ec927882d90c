import ScopeQuery.Proofs.CertainRendering
import ScopeQuery.Proofs.FilledStatements

/-!
# Reading statements

A selection and every sub-query on related rows is a statement that reads fields of tables from
the rows that satisfy predicates. The template of reading names no clause that asks for anything,
so such a statement can only be refused by its predicates.
-/

namespace ScopeQuery

namespace Statement

/-- The statement that reads fields of tables, from the rows that satisfy predicates. -/
def reading (dialect : Dialect) (fields tables : List Source) (wheres : List Predicate) :
    Statement :=
  { dialect, fields, tables, wheres }

/-! ### The template of reading -/

/-- The clauses that the template of reading names, in order. -/
def readingClauses : List Clause :=
  [.options, .fields, .tables, .joins, .wheres, .groups, .havings, .order, .limit]

/-- The template of reading has a tag for each of its clauses and no other tag. -/
theorem clauses_selectTemplate (dialect : Dialect) :
    (Template.tags (Template.tokenize (modeTemplate .select dialect))).map (·.1.clause?) =
      readingClauses.map some :=
  namedClauses_modeTemplate .select dialect

/-- Each tag of the template of reading names one of its clauses. -/
theorem clause_of_mem_selectTemplate {dialect : Dialect} {target : TagTarget} {style : TagStyle}
    (hmem : .tag target style ∈ Template.tokenize (modeTemplate .select dialect)) :
    ∃ part ∈ readingClauses, target.clause? = some part := by
  have hclause := List.mem_map_of_mem (f := (·.1.clause?)) (Template.mem_tags.2 hmem)
  rw [clauses_selectTemplate] at hclause
  obtain ⟨part, hpart, hfound⟩ := List.mem_map.1 hclause
  exact ⟨part, hpart, hfound.symm⟩

/-- The predicates on rows are a clause of reading. -/
theorem exists_mem_selectTemplate (dialect : Dialect) :
    ∃ target style, .tag target style ∈ Template.tokenize (modeTemplate .select dialect) ∧
      target.clause? = some .wheres := by
  have hwheres : some Clause.wheres ∈ readingClauses.map some := by decide
  rw [← clauses_selectTemplate dialect] at hwheres
  obtain ⟨⟨target, style⟩, hmem, hfound⟩ := List.mem_map.1 hwheres
  exact ⟨target, style, Template.mem_tags.1 hmem, hfound⟩

/-- A tag of a statement's template is rendered as the clause it names. -/
theorem renderTag_of_clause {s : Statement} {template : String} {target : TagTarget}
    {style : TagStyle} {part : Clause} (h : target.clause? = some part) :
    s.renderTag template target style = s.clauseRendering part := by
  funext session
  rw [renderTag, h]
  rfl

/-- Rendering a clause is settled. -/
theorem clauseRendering_settled (s : Statement) (part : Clause) (dialect : Dialect) :
    Settled dialect (s.clauseRendering part) := by
  cases hbuilt : s.clause dialect part with
  | error error =>
    refine (Settled.fail dialect error).congr fun session hsession => ?_
    rw [clauseRendering, hsession, hbuilt]
  | ok e =>
    refine (e.renderInto_settled dialect).congr fun session hsession => ?_
    rw [clauseRendering, hsession, hbuilt]

/-! ### Clauses of reading -/

section Clauses

variable (dialect : Dialect) (fields tables : List Source) (wheres : List Predicate)

/-- Reading all fields has a text. -/
theorem allFields_alwaysRender :
    AlwaysRenders ((reading dialect [] tables wheres).clauseRendering .fields) := by
  have hstar : (Expression.ofTemplate "*").AlwaysRenders :=
    Expression.alwaysRenders_of_placed [] (by decide +kernel) rfl (by simp)
  exact hstar

/-- Reading one expression has a text when the expression has. -/
theorem oneField_alwaysRenders {e : Expression} (h : e.AlwaysRenders) :
    AlwaysRenders
      ((reading dialect [⟨none, .expression e⟩] tables wheres).clauseRendering .fields) := by
  have hfield : (Expression.ofTemplate "\x7b\x7b\x7d\x7d" [.expression e]).AlwaysRenders :=
    Expression.alwaysRenders_of_placed [.soft] (by decide +kernel) rfl
      (by simpa using Argument.expression_alwaysRenders h)
  exact hfield

/-- Reading from one table has a text, with and without an alias. -/
theorem oneTable_alwaysRenders (aliasName : Option String) (table : String) :
    AlwaysRenders
      ((reading dialect fields [⟨aliasName, .text table⟩] wheres).clauseRendering .tables) := by
  have htable : (Expression.ofTemplate " from \x7b\x7b\x7d\x7d" [.text table]).AlwaysRenders :=
    Expression.alwaysRenders_of_placed [.soft] (by decide +kernel) rfl
      (by simpa using Argument.text_alwaysRenders table)
  cases aliasName with
  | none => exact htable
  | some aliasName =>
    have haliased : (Expression.ofTemplate " from \x7b\x7b\x7d\x7d \x7b\x7d"
        [.text table, .text aliasName]).AlwaysRenders :=
      Expression.alwaysRenders_of_placed [.soft, .identifier] (by decide +kernel) rfl
        (by simp [Argument.text_alwaysRenders])
    intro session
    rw [clauseRendering, clause, reading, List.map_singleton, ClauseItem.ofSource]
    dsimp only
    -- An alias that is the name itself is left out.
    split
    · exact htable session
    · exact haliased session

end Clauses

section Reading

variable {dialect : Dialect} {fields tables : List Source} {wheres : List Predicate}
  (hfields : AlwaysRenders ((reading dialect fields tables wheres).clauseRendering .fields))
  (htables : AlwaysRenders ((reading dialect fields tables wheres).clauseRendering .tables))
include hfields htables

/-- Only the fields, the tables and the predicates of a reading statement can be refused. -/
theorem reading_clause_alwaysRenders {part : Clause} (hpart : part ∈ readingClauses)
    (hother : part ≠ .wheres) :
    AlwaysRenders ((reading dialect fields tables wheres).clauseRendering part) := by
  have hempty : emptyClause.AlwaysRenders :=
    Expression.alwaysRenders_of_placed [] (by decide +kernel) rfl (by simp)
  cases part with
  | wheres => exact absurd rfl hother
  | fields => exact hfields
  | tables => exact htables
  | options | joins | groups | havings | limit => exact hempty
  | order =>
    intro session
    have horder : (reading dialect fields tables wheres).orderClause session.dialect =
        emptyClause := by
      simp [orderClause, reading, optionalClause]
    rw [clauseRendering, clause, horder]
    exact hempty session
  | tableNoAlias | assignments | setFields | setValues => simp [readingClauses] at hpart

/-- A reading statement has a text in every session when its predicates are not refused. -/
theorem reading_alwaysRenders (h : ComeTo (Predicate.allLeaves wheres) none) :
    AlwaysRenders (reading dialect fields tables wheres).renderInto := by
  have hwheres : AlwaysRenders ((reading dialect fields tables wheres).clauseRendering .wheres) :=
    predicateClause_alwaysRenders .wheres h
  intro session
  rw [renderInto_eq_fill]
  refine fill_alwaysRenders (fun target style hmem => ?_) session
  obtain ⟨part, hpart, hfound⟩ := clause_of_mem_selectTemplate hmem
  rw [renderTag_of_clause hfound]
  by_cases hother : part = .wheres
  · exact hother ▸ hwheres
  · exact reading_clause_alwaysRenders hfields htables hpart hother

/-- A reading statement is refused with the error of its predicates in every session. -/
theorem reading_alwaysFails {error : QueryError}
    (h : ComeTo (Predicate.allLeaves wheres) (some error)) :
    AlwaysFails error (reading dialect fields tables wheres).renderInto := by
  have hwheres : AlwaysFails error
      ((reading dialect fields tables wheres).clauseRendering .wheres) :=
    predicateClause_alwaysFails .wheres h
  intro session
  obtain ⟨failing, written, hmem, hfound⟩ := exists_mem_selectTemplate session.dialect
  rw [renderInto_eq_fill]
  refine fill_alwaysFails (fun target style hmem => ?_) hmem
    (by rw [renderTag_of_clause hfound]; exact hwheres) session
  obtain ⟨part, hpart, hfound⟩ := clause_of_mem_selectTemplate hmem
  rw [renderTag_of_clause hfound]
  by_cases hother : part = .wheres
  · exact .inr (hother ▸ hwheres)
  · exact .inl (reading_clause_alwaysRenders hfields htables hpart hother)

end Reading

/-- The statement that reads all fields of one table, from the rows that satisfy predicates. -/
def readingAll (dialect : Dialect) (table : String) (wheres : List Predicate) : Statement :=
  reading dialect [] [⟨none, .text table⟩] wheres

section ReadingAll

variable {wheres : List Predicate} (dialect : Dialect) (table : String)

/-- Reading one table is a query when the predicates are not refused. -/
theorem readingAll_renders (h : ComeTo (Predicate.allLeaves wheres) none) :
    ∃ query, (readingAll dialect table wheres).render = .ok query := by
  obtain ⟨⟨sql, session⟩, hresult⟩ := reading_alwaysRenders
    (allFields_alwaysRender dialect [⟨none, .text table⟩] wheres)
    (oneTable_alwaysRenders dialect [] wheres none table) h (.bound dialect)
  exact ⟨session.finish sql, by rw [render]; exact hresult ▸ rfl⟩

/-- Reading one table fails with the error of its predicates. -/
theorem readingAll_fails {error : QueryError}
    (h : ComeTo (Predicate.allLeaves wheres) (some error)) :
    (readingAll dialect table wheres).render = .error error := by
  have hfails := reading_alwaysFails
    (allFields_alwaysRender dialect [⟨none, .text table⟩] wheres)
    (oneTable_alwaysRenders dialect [] wheres none table) h (.bound dialect)
  rw [render]
  exact hfails ▸ rfl

end ReadingAll

end Statement

/-! ### Related rows -/

/-- A sub-query reads the linked table under an alias, from the rows that are correlated with
the parent and satisfy the predicates. -/
theorem Link.subQuery_rows (link : Link) (parent : Entity) (hop : String)
    (predicates : List Predicate) (selected : String) :
    (link.rows parent hop).subQuery predicates selected =
      .reading .generic [⟨none, .expression (.ofTemplate selected)⟩]
        [⟨(parent.reached hop link.table).aliasName, .text link.table⟩]
        (link.correlation parent (parent.reached hop link.table) :: predicates) := rfl

namespace Compiler

variable {compiler : Compiler} {entity : Entity} {hop : String} {related : RelatedRows}

/-- The predicates on related rows come to a fragment that always has a text when their own
fragments always have one. -/
theorem existsWith_alwaysRenders (hfollow : compiler.follow entity hop = .ok related)
    {predicates : List Predicate} (h : ComeTo (Predicate.allLeaves predicates) none) :
    (related.existsWith predicates).AlwaysRenders := by
  obtain ⟨link, rfl⟩ := exists_link_of_follow hfollow
  have hcorrelation (parent related : Entity) : ComeTo [link.correlation parent related] none :=
    Expression.predicate_comesTo (Expression.alwaysRenders_of_placed [.soft, .soft]
      (by decide +kernel) rfl (by simp [Argument.text_alwaysRenders]))
  have hone : (Expression.ofTemplate "1").AlwaysRenders :=
    Expression.alwaysRenders_of_placed [] (by decide +kernel) rfl (by simp)
  have hwheres : ComeTo (Predicate.allLeaves
      (link.correlation entity (entity.reached hop link.table) :: predicates)) none :=
    (hcorrelation entity (entity.reached hop link.table)).append h
  have hquery := Statement.reading_alwaysRenders
    (Statement.oneField_alwaysRenders .generic _ _ hone)
    (Statement.oneTable_alwaysRenders .generic _ _
      (entity.reached hop link.table).aliasName link.table) hwheres
  rw [RelatedRows.existsWith, link.subQuery_rows]
  exact Expression.alwaysRenders_of_placed [.param] (by decide +kernel) rfl
    (by simpa using Argument.statement_alwaysRenders hquery)

/-! ### Selections -/

/-- A selection reads all fields of its entity, from the rows that satisfy its predicates. -/
theorem select_eq (compiler : Compiler) (selection : Selection) :
    compiler.select selection =
      ((compiler.scopePredicates (.root selection.entity) selection.scope).mapError
        (inStatement (.readingAll compiler.dialect selection.entity []))).map
          (.readingAll compiler.dialect selection.entity) := by
  have hfill : compiler.select selection = compiler.fillWhere
      (.readingAll compiler.dialect selection.entity []) selection := rfl
  rw [hfill, fillWhere, selectionPredicates]
  cases compiler.scopePredicates (.root selection.entity) selection.scope <;> rfl

/-- The statement that reads a selection is made when each of its conditions has a predicate. -/
theorem select_of_contributions {selection : Selection} {fragments : List Predicate}
    (h : contributions (compiler.conditionPredicate (.root selection.entity))
      selection.scope.tree.leaves = .ok fragments) :
    ∃ predicates, compiler.select selection =
        .ok (.readingAll compiler.dialect selection.entity predicates) ∧
      Predicate.allLeaves predicates = fragments := by
  have hleaves := compiler.allLeaves_scopePredicates (.root selection.entity) selection.scope
  rw [h] at hleaves
  rw [select_eq]
  cases hfound : compiler.scopePredicates (.root selection.entity) selection.scope with
  | error error =>
    rw [hfound] at hleaves
    cases hleaves
  | ok predicates =>
    rw [hfound] at hleaves
    exact ⟨predicates, rfl, Except.ok.inj hleaves⟩

/-- A selection is read by a statement with the predicates of its conditions. -/
theorem contributions_of_select {selection : Selection} {statement : Statement}
    (h : compiler.select selection = .ok statement) :
    ∃ predicates, statement = .readingAll compiler.dialect selection.entity predicates ∧
      contributions (compiler.conditionPredicate (.root selection.entity))
        selection.scope.tree.leaves = .ok (Predicate.allLeaves predicates) := by
  have hleaves := compiler.allLeaves_scopePredicates (.root selection.entity) selection.scope
  rw [select_eq] at h
  cases hfound : compiler.scopePredicates (.root selection.entity) selection.scope with
  | error error =>
    rw [hfound] at h
    cases h
  | ok predicates =>
    rw [hfound] at h hleaves
    cases h
    exact ⟨predicates, rfl, hleaves.symm⟩

end Compiler

end ScopeQuery
