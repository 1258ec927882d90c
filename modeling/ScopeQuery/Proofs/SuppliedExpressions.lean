import ScopeQuery.Proofs.AvoidedErrors
import ScopeQuery.Proofs.ClauseItems
import ScopeQuery.Proofs.NamedClauses
import ScopeQuery.Proofs.ReadingStatements

/-!
# Expressions that callers supply

The templates that a statement is rendered with have an operand for each of their tags, so a
tag without an argument can only stand in an expression that the caller gave. What is followed
through the clauses is that they do not fail with such a tag when nothing that the caller gave
does; the induction is on what stands in what, below lists and sub-queries.
-/

namespace ScopeQuery

/-! ### What callers supply -/

/-- An argument that a caller gave to a clause of the statement. -/
inductive Statement.Supplied (s : Statement) : Argument → Prop where
  /-- A selected field. -/
  | field {source : Source} (h : source ∈ s.fields) : s.Supplied source.source
  /-- A table. -/
  | table {source : Source} (h : source ∈ s.tables) : s.Supplied source.source
  /-- The condition of a join. -/
  | condition {join : Join} {e : Expression} (h : join ∈ s.joins)
      (he : join.condition = .expression e) : s.Supplied (.expression e)
  /-- The field of a comparison. -/
  | compared (part : PredicateClause) {field value : Argument} {operator : Option Operator}
      (h : .comparison field operator value ∈ Predicate.allLeaves (part.predicates s)) :
      s.Supplied field
  /-- The value of a comparison. -/
  | value (part : PredicateClause) {field value : Argument} {operator : Option Operator}
      (h : .comparison field operator value ∈ Predicate.allLeaves (part.predicates s)) :
      s.Supplied value
  /-- A fragment that is a predicate by itself. -/
  | fragment (part : PredicateClause) {argument : Argument}
      (h : .fragment argument ∈ Predicate.allLeaves (part.predicates s)) : s.Supplied argument
  /-- What rows are grouped by. -/
  | grouping {argument : Argument} (h : argument ∈ s.groups) : s.Supplied argument
  /-- What rows are sorted by. -/
  | sorting {item : OrderItem} (h : item ∈ s.order) : s.Supplied item.field
  /-- The value of a set field. -/
  | assigned {assignment : Assignment} (h : assignment ∈ s.assignments) :
      s.Supplied assignment.value

/-- An argument that stands in another one, below lists and sub-queries alone. -/
inductive Argument.Within (inner : Argument) : Argument → Prop where
  /-- The argument itself. -/
  | refl : inner.Within inner
  /-- In an item of a list. -/
  | item {items : List Argument} {outer : Argument} (h : outer ∈ items)
      (hinner : inner.Within outer) : inner.Within (.list items)
  /-- In what a sub-query was given. -/
  | supplied {s : Statement} {outer : Argument} (h : s.Supplied outer)
      (hinner : inner.Within outer) : inner.Within (.statement s)

/-- A statement whose options hold no character that could start a tag or a quoted span. -/
def Statement.HasPlainOptions (s : Statement) : Prop :=
  ∀ option ∈ s.options, option.toList.all Template.isPlain = true

/-! ### Depth of what callers supply -/

mutual

/-- The fragments of a predicate are no deeper than the predicate. -/
theorem Predicate.depth_le_of_mem_leaves {predicate leaf : Predicate}
    (h : leaf ∈ predicate.leaves) : leaf.depth ≤ predicate.depth := by
  match predicate with
  | .comparison field operator value =>
    rw [leaves, List.mem_singleton] at h
    rw [h]
  | .fragment argument =>
    rw [leaves, List.mem_singleton] at h
    rw [h]
  | .group junction parts =>
    rw [leaves] at h
    rw [depth]
    have hparts := Predicate.depth_le_of_mem_allLeaves h
    omega

/-- The fragments of several predicates are no deeper than the deepest of them. -/
theorem Predicate.depth_le_of_mem_allLeaves {predicates : List Predicate} {leaf : Predicate}
    (h : leaf ∈ allLeaves predicates) : leaf.depth ≤ predicatesDepth predicates := by
  match predicates with
  | [] => cases h
  | predicate :: rest =>
    rw [allLeaves, List.mem_append] at h
    rw [predicatesDepth]
    obtain h | h := h
    · have hfirst := Predicate.depth_le_of_mem_leaves h
      omega
    · have hrest := Predicate.depth_le_of_mem_allLeaves h
      omega

end

/-- An element is at most as deep as the list, when a list is as deep as its deepest element. -/
theorem le_of_max_cons {α : Type} {measure : List α → Nat} (size : α → Nat)
    (hcons : ∀ first rest, measure (first :: rest) = max (size first) (measure rest)) {x : α}
    {elements : List α} (h : x ∈ elements) : size x ≤ measure elements := by
  induction elements with
  | nil => cases h
  | cons first rest ih =>
    rw [hcons]
    obtain rfl | h := List.mem_cons.1 h
    · exact Nat.le_max_left _ _
    · exact Nat.le_trans (ih h) (Nat.le_max_right _ _)

/-- A source is no deeper than those it stands among. -/
theorem depth_le_of_mem_sources {source : Source} {sources : List Source} (h : source ∈ sources) :
    source.source.depth ≤ sourcesDepth sources := by
  refine le_of_max_cons (fun source : Source => source.source.depth) (fun first rest => ?_) h
  cases first
  rw [sourcesDepth]

/-- An item of an order is no deeper than the order. -/
theorem depth_le_of_mem_order {item : OrderItem} {order : List OrderItem} (h : item ∈ order) :
    item.field.depth ≤ orderDepth order := by
  refine le_of_max_cons (fun item : OrderItem => item.field.depth) (fun first rest => ?_) h
  cases first
  rw [orderDepth]

/-- An assigned value is no deeper than the assignments. -/
theorem depth_le_of_mem_assignments {assignment : Assignment} {assignments : List Assignment}
    (h : assignment ∈ assignments) : assignment.value.depth ≤ assignmentsDepth assignments := by
  refine le_of_max_cons (fun assignment : Assignment => assignment.value.depth)
    (fun first rest => ?_) h
  cases first
  rw [assignmentsDepth]

/-- What a caller gave to a statement is no deeper than the statement. -/
theorem Statement.Supplied.depth_le {s : Statement} {argument : Argument}
    (h : s.Supplied argument) : argument.depth ≤ s.depth := by
  have hdepth : max
      (max (max (sourcesDepth s.fields) (sourcesDepth s.tables))
        (max (joinsDepth s.joins) (argumentsDepth s.groups)))
      (max (max (predicatesDepth s.wheres) (predicatesDepth s.havings) + 1)
        (max (orderDepth s.order) (assignmentsDepth s.assignments))) ≤ s.depth := by
    cases s
    rw [Statement.depth]
  simp only [Nat.max_le] at hdepth
  obtain ⟨⟨⟨hfields, htables⟩, hjoins, hgroups⟩, hpredicates, horder, hassignments⟩ := hdepth
  have hpart (part : PredicateClause) : predicatesDepth (part.predicates s) ≤ s.depth := by
    cases part with
    | wheres => exact Nat.le_trans (Nat.le_succ_of_le (Nat.le_max_left _ _)) hpredicates
    | havings => exact Nat.le_trans (Nat.le_succ_of_le (Nat.le_max_right _ _)) hpredicates
  have hcomparison (part : PredicateClause) {field value : Argument} {operator : Option Operator}
      (h : .comparison field operator value ∈ Predicate.allLeaves (part.predicates s)) :
      field.depth ≤ s.depth ∧ value.depth ≤ s.depth := by
    have hleaf := Nat.le_trans (Predicate.depth_le_of_mem_allLeaves h) (hpart part)
    rw [Predicate.depth] at hleaf
    omega
  cases h with
  | field h => exact Nat.le_trans (depth_le_of_mem_sources h) hfields
  | table h => exact Nat.le_trans (depth_le_of_mem_sources h) htables
  | @condition join e h he =>
    have hmem : Argument.expression e ∈ (ClauseItem.ofJoin join).operands := by
      simp [ClauseItem.ofJoin, ClauseItem.ofJoinCondition, he]
    exact Nat.le_trans (depth_le_of_mem hmem) (Nat.le_trans (ofJoin_depth_le h) hjoins)
  | compared part h => exact (hcomparison part h).1
  | value part h => exact (hcomparison part h).2
  | fragment part h =>
    have hleaf := Nat.le_trans (Predicate.depth_le_of_mem_allLeaves h) (hpart part)
    rwa [Predicate.depth] at hleaf
  | grouping h => exact Nat.le_trans (depth_le_of_mem h) hgroups
  | sorting h => exact Nat.le_trans (depth_le_of_mem_order h) horder
  | assigned h => exact Nat.le_trans (depth_le_of_mem_assignments h) hassignments

/-! ### Clauses -/

/-- Whether the error is a tag without an argument. -/
def QueryError.isUnknownTag : QueryError → Bool
  | .unknownTag _ _ => true
  | _ => false

section Clauses

variable {s : Statement} {dialect : Dialect} {error : QueryError}

/-- The fragments of a statement's predicates fail as what the caller gave does. -/
theorem predicateExpressions_avoid
    (h : ∀ argument, s.Supplied argument → argument.Avoids dialect error) (part : PredicateClause)
    {parts : List Expression}
    (hparts : predicateExpressions dialect (part.predicates s) = .ok parts) :
    ∀ e ∈ parts, Avoids dialect error e.renderInto := by
  refine predicateExpressions_induction joinParts_avoids _ (fun hleaf he => ?_)
    (fun hleaf => ?_) hparts
  · exact comparisonExpression_avoids he (h _ (.compared part hleaf)) (h _ (.value part hleaf))
  · exact Expression.avoids_of_placed [.param] (by decide +kernel) rfl
      (by simpa using h _ (.fragment part hleaf))

/-- A comparison that is refused has no tag without an argument. -/
theorem isUnknownTag_of_comparisonExpression {field value : Argument} {operator : Option Operator}
    (h : comparisonExpression dialect field operator value = .error error) :
    error.isUnknownTag = false := by
  unfold comparisonExpression at h
  split at h
  · unfold nullTest at h
    split at h
    · cases h
      rfl
    · split at h <;> cases h
  · split at h
    · split at h
      · cases h
      · cases h
        rfl
    · cases h

mutual

/-- A predicate that is refused has no tag without an argument. -/
theorem Predicate.isUnknownTag_of_toExpression {predicate : Predicate}
    (h : predicate.toExpression dialect = .error error) : error.isUnknownTag = false := by
  match predicate with
  | .comparison field operator value =>
    rw [Predicate.toExpression] at h
    split at h
    · cases h
    · rename_i found hfound
      cases h
      exact isUnknownTag_of_comparisonExpression hfound
  | .fragment argument => cases h
  | .group junction parts =>
    rw [Predicate.toExpression] at h
    split at h
    · cases h
    · rename_i found hfound
      cases h
      exact isUnknownTag_of_predicateExpressions hfound

/-- Predicates that are refused have no tag without an argument. -/
theorem isUnknownTag_of_predicateExpressions {predicates : List Predicate}
    (h : predicateExpressions dialect predicates = .error error) :
    error.isUnknownTag = false := by
  match predicates with
  | [] => cases h
  | predicate :: rest =>
    rw [predicateExpressions] at h
    split at h
    · rename_i found hfound
      cases h
      exact Predicate.isUnknownTag_of_toExpression hfound
    · split at h
      · rename_i found hfound
        cases h
        exact isUnknownTag_of_predicateExpressions hfound
      · cases h

end

namespace ListClause

/-- Items that are refused have no tag without an argument. -/
theorem isUnknownTag_of_items {part : ListClause} (h : part.items s dialect = .error error) :
    error.isUnknownTag = false := by
  have hpredicates {predicates : List Predicate}
      (h : predicateItems dialect predicates = .error error) : error.isUnknownTag = false := by
    cases hmade : predicateExpressions dialect predicates with
    | error found =>
      rw [predicateItems, hmade] at h
      cases h
      exact isUnknownTag_of_predicateExpressions hmade
    | ok found =>
      rw [predicateItems, hmade] at h
      cases h
  have hassigned {item : Assignment → List ItemPart} (h : s.assignedItems item = .error error) :
      error.isUnknownTag = false := by
    rw [Statement.assignedItems] at h
    split at h <;> cases h
    rfl
  cases part with
  | wheres | havings => exact hpredicates h
  | assignments | setFields | setValues => exact hassigned h
  | fields | tables | joins | groups | order => cases h

variable (hunknown : error.isUnknownTag = true)
  (hsupplied : ∀ argument, s.Supplied argument → argument.Avoids dialect error)
include hsupplied

/-- The arguments of items fail as what the caller gave does. -/
theorem operands_avoid {part : ListClause} {found : List (List ItemPart)}
    (h : part.items s dialect = .ok found) :
    ∀ item ∈ found, ∀ argument ∈ partsOperands item, argument.Avoids dialect error := by
  have haliased (separator : String) (aliasName : Option String) :
      ∀ argument ∈ partsOperands (aliasParts separator aliasName),
        argument.Avoids dialect error := by
    cases aliasName with
    | none => exact List.forall_mem_nil _
    | some aliasName => exact List.forall_mem_singleton.2 (Argument.text_avoids aliasName)
  have hsource (separator : String) {source : Source} (h : s.Supplied source.source) :
      ∀ argument ∈ partsOperands (source.parts separator), argument.Avoids dialect error :=
    List.forall_mem_cons.2 ⟨hsupplied _ h, haliased separator _⟩
  have hpredicates (part : PredicateClause)
      (h : predicateItems dialect (part.predicates s) = .ok found) :
      ∀ item ∈ found, ∀ argument ∈ partsOperands item, argument.Avoids dialect error := by
    intro item hitem
    obtain ⟨parts, e, hmade, he, rfl⟩ := mem_predicateItems h hitem
    exact List.forall_mem_singleton.2
      (Argument.expression_avoids (predicateExpressions_avoid hsupplied part hmade e he))
  cases part with
  | fields =>
    cases h
    exact List.forall_mem_map.2 fun source hmem => hsource " as " (.field hmem)
  | tables =>
    cases h
    exact List.forall_mem_map.2 fun source hmem => hsource " " (.table hmem)
  | joins =>
    cases h
    refine List.forall_mem_map.2 fun join hmem => ?_
    have hcondition : ∀ argument ∈ partsOperands join.condition.parts,
        argument.Avoids dialect error := by
      cases hon : join.condition with
      | columns left right =>
        exact List.forall_mem_cons.2 ⟨Argument.text_avoids left,
          List.forall_mem_singleton.2 (Argument.text_avoids right)⟩
      | expression e =>
        exact List.forall_mem_singleton.2 (hsupplied _ (.condition hmem hon))
    have hoperands : partsOperands join.parts = .text join.table ::
        (partsOperands (aliasParts " " join.aliasName) ++ partsOperands join.condition.parts) :=
      congrArg (List.cons _) List.filterMap_append
    rw [hoperands]
    exact List.forall_mem_cons.2 ⟨Argument.text_avoids join.table,
      List.forall_mem_append.2 ⟨haliased " " join.aliasName, hcondition⟩⟩
  | wheres => exact hpredicates .wheres h
  | havings => exact hpredicates .havings h
  | groups =>
    cases h
    exact List.forall_mem_map.2 fun argument hmem =>
      List.forall_mem_singleton.2 (hsupplied argument (.grouping hmem))
  | order =>
    cases h
    refine List.forall_mem_map.2 fun item hmem => ?_
    have hfield := hsupplied _ (.sorting hmem)
    obtain ⟨field, _ | _⟩ := item
    · exact List.forall_mem_singleton.2 hfield
    · exact List.forall_mem_singleton.2 hfield
  | assignments =>
    intro item hitem
    obtain ⟨assignment, hmem, rfl⟩ := Statement.mem_assignedItems h hitem
    exact List.forall_mem_cons.2 ⟨Argument.text_avoids assignment.field,
      List.forall_mem_singleton.2 (hsupplied _ (.assigned hmem))⟩
  | setFields =>
    intro item hitem
    obtain ⟨assignment, -, rfl⟩ := Statement.mem_assignedItems h hitem
    exact List.forall_mem_singleton.2 (Argument.text_avoids assignment.field)
  | setValues =>
    intro item hitem
    obtain ⟨assignment, hmem, rfl⟩ := Statement.mem_assignedItems h hitem
    exact List.forall_mem_singleton.2 (hsupplied _ (.assigned hmem))

include hunknown

/-- A clause of a list fails as what the caller gave does. -/
theorem clauseRendering_avoids (part : ListClause) :
    Avoids dialect error (s.clauseRendering part.clause) := by
  intro session hsession
  rw [Statement.clauseRendering, clause_eq, hsession]
  cases hitems : part.items s dialect with
  | error found =>
    rintro hfails
    cases hfails
    exact Bool.false_ne_true ((isUnknownTag_of_items hitems).symm.trans hunknown)
  | ok found =>
    dsimp only [Except.map]
    rw [Expression.ofParts_renderInto (isPlain_parts hitems)]
    refine renderParts_avoids (fun argument hargument => ?_) session hsession
    rw [parts] at hargument
    split at hargument
    · cases hargument
    · change argument ∈ partsOperands (joinedParts part.separator found) at hargument
      rw [partsOperands_joinedParts] at hargument
      obtain ⟨item, hitem, hmem⟩ := List.mem_flatMap.1 hargument
      exact operands_avoid hsupplied hitems item hitem argument hmem

end ListClause

/-- The tags of a row limit are its count and the skipped rows, in every dialect. -/
theorem targets_limitTemplate (dialect : Dialect) :
    ∀ tag ∈ Template.tags (Template.tokenize (limitTemplate dialect)),
      tag.1 = .name "count" ∨ tag.1 = .name "skip" := by
  cases dialect <;> decide +kernel

/-- The row limit never fails. -/
theorem limitClause_avoids (limit : RowLimit) :
    Avoids dialect error (limitClause dialect limit).renderInto := by
  have htemplate : (limitClause dialect limit).template = some (limitTemplate dialect) := rfl
  intro session hsession
  rw [Expression.renderInto_of_template htemplate]
  refine fill_avoids (fun target style hmem => ?_) session hsession
  obtain ⟨value, hfound⟩ : ∃ value, (limitClause dialect limit).argument? target =
      some (.literal value) := by
    obtain hname | hname := targets_limitTemplate dialect _ (Template.mem_tags.2 hmem) <;>
      exact ⟨_, by rw [show target = _ from hname]; rfl⟩
  have htag : (limitClause dialect limit).renderTag (limitTemplate dialect) target style =
      (Argument.literal value).renderInto style := by
    funext after
    rw [Expression.renderTag, hfound]
  rw [htag]
  exact ⟨Argument.keepsDialect _ style, Argument.literal_avoids value style⟩

/-- Texts that stand for themselves do so when they are joined. -/
theorem isPlain_joined (separator : String)
    (hseparator : separator.toList.all Template.isPlain = true) {texts : List String}
    (h : ∀ text ∈ texts, text.toList.all Template.isPlain = true) :
    (Text.joined separator texts).toList.all Template.isPlain = true := by
  induction texts with
  | nil => rfl
  | cons text rest ih =>
    obtain ⟨htext, hlater⟩ := List.forall_mem_cons.1 h
    cases rest with
    | nil => exact htext
    | cons next rest =>
      rw [Text.joined, String.toList_append, String.toList_append, List.all_append,
        List.all_append, htext, hseparator, ih hlater]
      rfl

/-- Options that stand for themselves never fail. -/
theorem options_avoid (h : s.HasPlainOptions) :
    Avoids dialect error (s.clauseRendering .options) := by
  have hwords (text : String) (htext : text.toList.all Template.isPlain = true) :
      Avoids dialect error (Expression.ofTemplate text).renderInto :=
    Expression.avoids_of_placed [] (Template.HasUnnamed.plain htext).tags_tokenize rfl
      (List.forall_mem_nil _)
  intro session hsession
  rw [Statement.clauseRendering, Statement.clause]
  dsimp only
  split
  · exact hwords "" rfl session hsession
  · refine hwords _ ?_ session hsession
    rw [String.toList_append, List.all_append, isPlain_joined " " (by decide) h]
    decide

/-- The first table fails as what the caller gave does. -/
theorem tableNoAlias_avoids (hunknown : error.isUnknownTag = true)
    (hsupplied : ∀ argument, s.Supplied argument → argument.Avoids dialect error) :
    Avoids dialect error (s.clauseRendering .tableNoAlias) := by
  intro session hsession
  rw [Statement.clauseRendering, Statement.clause]
  cases htables : s.tables with
  | nil =>
    dsimp only
    rintro hfails
    cases hfails
    cases hunknown
  | cons table rest =>
    dsimp only
    have hparts : listClause "" "" [.soft table.source] =
        .ofParts [.words "", .operand .soft table.source] := rfl
    rw [hparts, Expression.ofParts_renderInto (by simp [ItemPart.isPlain])]
    refine renderParts_avoids (List.forall_mem_singleton.2 ?_) session hsession
    exact hsupplied _ (.table (by rw [htables]; exact List.mem_cons_self))

/-- Every clause fails as what the caller gave does. -/
theorem clauseRendering_avoids (hunknown : error.isUnknownTag = true) (hoptions : s.HasPlainOptions)
    (hsupplied : ∀ argument, s.Supplied argument → argument.Avoids dialect error) (part : Clause) :
    Avoids dialect error (s.clauseRendering part) := by
  cases part with
  | options => exact options_avoid hoptions
  | tableNoAlias => exact tableNoAlias_avoids hunknown hsupplied
  | limit =>
    intro session hsession
    rw [Statement.clauseRendering, Statement.clause]
    cases s.limit with
    | none =>
      exact Expression.avoids_of_placed [] (Template.HasUnnamed.plain rfl).tags_tokenize rfl
        (List.forall_mem_nil _) session hsession
    | some limit =>
      rw [hsession]
      exact limitClause_avoids limit session hsession
  | fields => exact ListClause.clauseRendering_avoids hunknown hsupplied .fields
  | tables => exact ListClause.clauseRendering_avoids hunknown hsupplied .tables
  | joins => exact ListClause.clauseRendering_avoids hunknown hsupplied .joins
  | wheres => exact ListClause.clauseRendering_avoids hunknown hsupplied .wheres
  | groups => exact ListClause.clauseRendering_avoids hunknown hsupplied .groups
  | havings => exact ListClause.clauseRendering_avoids hunknown hsupplied .havings
  | order => exact ListClause.clauseRendering_avoids hunknown hsupplied .order
  | assignments => exact ListClause.clauseRendering_avoids hunknown hsupplied .assignments
  | setFields => exact ListClause.clauseRendering_avoids hunknown hsupplied .setFields
  | setValues => exact ListClause.clauseRendering_avoids hunknown hsupplied .setValues

end Clauses

/-! ### Statements -/

/-- A statement fails as what the caller gave does. -/
theorem Statement.renderInto_avoids {s : Statement} {dialect : Dialect} {error : QueryError}
    (hunknown : error.isUnknownTag = true) (hoptions : s.HasPlainOptions)
    (hsupplied : ∀ argument, s.Supplied argument → argument.Avoids dialect error) :
    Avoids dialect error s.renderInto := by
  intro session hsession
  rw [renderInto_eq_fill]
  refine fill_avoids (fun target style hmem => ?_) session hsession
  have hnames := Template.clause?_of_namesClauses
    (namesClauses_modeTemplate s.mode session.dialect) _ (Template.mem_tags.2 hmem)
  obtain ⟨part, hpart⟩ := Option.isSome_iff_exists.1 hnames
  rw [renderTag_of_clause hpart]
  exact ⟨keepsDialect_of_settled (s.clauseRendering_settled part),
    clauseRendering_avoids hunknown hoptions hsupplied part⟩

/-- An argument fails as the expressions in it do on their own. -/
theorem Argument.avoids_of_within {dialect : Dialect} {error : QueryError}
    (hunknown : error.isUnknownTag = true) (argument : Argument)
    (hoptions : ∀ s, (statement s).Within argument → s.HasPlainOptions)
    (hexpressions : ∀ e, (expression e).Within argument → e.render dialect ≠ .error error) :
    argument.Avoids dialect error := by
  match argument with
  | .literal value => exact literal_avoids value
  | .expression e =>
    exact expression_avoids (Expression.avoids_of_render (hexpressions e .refl))
  | .list items =>
    refine list_avoids fun item hitem => ?_
    have hdepth := depth_le_of_mem hitem
    exact avoids_of_within hunknown item (fun s hs => hoptions s (.item hitem hs))
      fun e he => hexpressions e (.item hitem he)
  | .statement s =>
    refine statement_avoids (Statement.renderInto_avoids hunknown (hoptions s .refl) ?_)
    intro inner hinner
    have hdepth := hinner.depth_le
    exact avoids_of_within hunknown inner (fun s hs => hoptions s (.supplied hinner hs))
      fun e he => hexpressions e (.supplied hinner he)
termination_by argument.depth
decreasing_by
  all_goals
    simp only [Argument.depth]
    omega

/-- No clause shifts an argument into the tag of another item. A clause that is a list renders,
in any session, to its words and its items one after another, each from its own source, alias,
columns or value, with the clause's separator between them. So a statement with plain options only
lacks the argument of a tag when an expression that the caller gave to it, to a list or to a
sub-query in it does so when it is rendered on its own. -/
theorem Statement.clauses_render_items (s : Statement) :
    (∀ (part : ListClause) (session : Session),
      s.clauseRendering part.clause session = part.renderInto s session) ∧
    ((∀ inner, (Argument.statement inner).Within (.statement s) → inner.HasPlainOptions) →
      ∀ tag template, s.render = .error (.unknownTag tag template) →
        ∃ e, (Argument.expression e).Within (.statement s) ∧
          e.render s.dialect = .error (.unknownTag tag template)) := by
  refine ⟨fun part session => part.clauseRendering_eq s session, ?_⟩
  intro hoptions tag template hrender
  by_contra hnone
  have hexpressions (e : Expression) (he : (Argument.expression e).Within (.statement s)) :
      e.render s.dialect ≠ .error (.unknownTag tag template) := fun hfails => hnone ⟨e, he, hfails⟩
  have hsupplied (argument : Argument) (h : s.Supplied argument) :
      argument.Avoids s.dialect (.unknownTag tag template) :=
    argument.avoids_of_within rfl (fun inner hinner => hoptions inner (.supplied h hinner))
      fun e he => hexpressions e (.supplied h he)
  have havoids := renderInto_avoids rfl (hoptions s .refl) hsupplied (.bound s.dialect) rfl
  rw [render] at hrender
  split at hrender
  · cases hrender
  · rename_i error hfound
    cases hrender
    exact havoids hfound

/-- A selection of a name with brackets, under an alias with braces, and of an expression that
lacks the argument of its tag. -/
def bracketedSelection : Statement :=
  { dialect := .generic
    fields := [⟨some "\x7b\x7d", .text "[]"⟩, ⟨none, .expression (.ofTemplate "[missing]")⟩] }

/-- The selection is refused with the tag of its expression, not with one of its names. -/
theorem bracketedSelection_lacks_supplied :
    ∃ e, (Argument.expression e).Within (.statement bracketedSelection) ∧
      e.render .generic = .error (.unknownTag "missing" "[missing]") := by
  have hoptions (inner : Statement)
      (h : (Argument.statement inner).Within (.statement bracketedSelection)) :
      inner.HasPlainOptions := by
    cases h with
    | refl => exact List.forall_mem_nil _
    | supplied h hinner =>
      -- Nothing stands below a name or an expression.
      cases h with
      | field h =>
        obtain rfl | rfl : _ ∨ _ := by simpa [bracketedSelection] using h
        · cases hinner
        · cases hinner
      | table h | condition h | grouping h | sorting h | assigned h => cases h
      | compared part h | value part h | fragment part h => cases part <;> cases h
  have hlacks (session : Session) : (Expression.ofTemplate "[missing]").renderInto session =
      .error (.unknownTag "missing" "[missing]") := by
    have htokens : Template.tokenize "[missing]" = [.tag (.name "missing") .param] := by
      decide +kernel
    rw [Expression.renderInto_of_template rfl, htokens]
    rfl
  have hname (name : String) (style : TagStyle) (session : Session) :
      (Argument.text name).renderInto style session =
        .ok (session.writeValue style (.string name)) := by
    rw [Argument.text, Argument.renderInto]
  have hfields (session : Session) : bracketedSelection.clauseRendering .fields session =
      .error (.unknownTag "missing" "[missing]") := by
    have hitems : ListClause.fields.items bracketedSelection session.dialect = .ok
        [[.operand .soft (.text "[]"), .words " as ", .operand .identifier (.text "\x7b\x7d")],
          [.operand .soft (.expression (.ofTemplate "[missing]"))]] := rfl
    refine (ListClause.fields.clauseRendering_eq bracketedSelection session).trans ?_
    rw [ListClause.renderInto, hitems]
    simp [renderEach, renderParts, ItemPart.renderInto, hname, Argument.renderInto, hlacks,
      Rendering.behind, Except.map]
  have hrender : bracketedSelection.render = .error (.unknownTag "missing" "[missing]") := by
    obtain ⟨rest, htokens⟩ : ∃ rest, Template.tokenize (modeTemplate .select .generic) =
        .text "select" :: .tag (.name "option") .param :: .text " " ::
          .tag (.name "field") .param :: rest :=
      ⟨(Template.tokenize (modeTemplate .select .generic)).drop 4, by decide +kernel⟩
    have hoption (session : Session) :
        bracketedSelection.clauseRendering .options session = .ok ("", session) := by
      have hempty : Template.tokenize "" = [] := by decide +kernel
      refine (Expression.renderInto_of_template rfl _).trans ?_
      rw [hempty]
      rfl
    have htag (target : TagTarget) (part : Clause) (h : target.clause? = some part)
        (template : String) : bracketedSelection.renderTag template target .param =
          bracketedSelection.clauseRendering part := Statement.renderTag_of_clause h
    have hmode : modeTemplate bracketedSelection.mode
        (Session.bound bracketedSelection.dialect).dialect = modeTemplate .select .generic := rfl
    rw [Statement.render, Statement.renderInto_eq_fill, hmode, htokens]
    simp only [fill]
    rw [htag _ .options rfl, hoption]
    dsimp only
    rw [htag _ .fields rfl, hfields]
  exact bracketedSelection.clauses_render_items.2 hoptions _ _ hrender

end ScopeQuery
