import ScopeQuery.Proofs.ParameterSubstitution
import ScopeQuery.Proofs.StandingValues

/-!
# Written values

The pieces that a node comes to hold the values that stand in it, in order, and no other. The
induction follows the renderer, and each template is followed tag by tag: what is written for a
tag has the values of what the tag stands for. A query therefore has the values of its statement
as parameters, named in order.
-/

namespace ScopeQuery

/-! ### Values of pieces -/

/-- The values of pieces, in order. -/
def piecesValues : List Piece → List Value
  | [] => []
  | .text _ :: rest => piecesValues rest
  | .value value :: rest => value :: piecesValues rest

/-- Pieces behind others have their values behind them. -/
theorem piecesValues_append (pieces rest : List Piece) :
    piecesValues (pieces ++ rest) = piecesValues pieces ++ piecesValues rest := by
  induction pieces with
  | nil => rfl
  | cons piece pieces ih =>
    cases piece with
    | text text => exact ih
    | value value => exact congrArg (value :: ·) ih

/-- Parentheses hold the values of what is in them. -/
theorem piecesValues_parenthesized (pieces : List Piece) :
    piecesValues (parenthesized pieces) = piecesValues pieces := by
  rw [parenthesized, piecesValues, piecesValues_append]
  exact List.append_nil _

/-- Joined pieces have the values of all. -/
theorem piecesValues_joinedPieces (separator : String) (groups : List (List Piece)) :
    piecesValues (joinedPieces separator groups) = groups.flatMap piecesValues := by
  induction groups with
  | nil => rfl
  | cons pieces rest ih =>
    cases rest with
    | nil => simp [joinedPieces]
    | cons next rest =>
      rw [joinedPieces, piecesValues_append, piecesValues, ih, ← List.flatMap_cons]

/-- What stands in the place of a tag for a value has the values that are bound for it. -/
theorem piecesValues_valuePieces (dialect : Dialect) (style : TagStyle) (value : Value) :
    piecesValues (valuePieces dialect style value) = value.standing style := by
  have hitems (items : List Value) :
      (items.map fun item => [Piece.value item]).flatMap piecesValues = items := by
    rw [List.flatMap_map]
    exact List.flatMap_singleton' items
  cases style with
  | param =>
    cases value with
    | array items =>
      rw [valuePieces, piecesValues_parenthesized, piecesValues_joinedPieces, hitems]
      rfl
    | _ => rfl
  | identifier => cases value <;> rfl
  | soft => cases value <;> rfl

/-- Two steps that succeed one after another. -/
theorem exists_of_inTurn {α β γ : Type} {combine : α → β → γ} {first : Except QueryError α}
    {second : Except QueryError β} {result : γ} (h : inTurn combine first second = .ok result) :
    ∃ a b, first = .ok a ∧ second = .ok b ∧ combine a b = result := by
  cases first with
  | error error => cases h
  | ok a =>
    cases second with
    | error error => cases h
    | ok b => exact ⟨a, b, rfl, rfl, Except.ok.inj h⟩

/-- A filled template has the values of its tags, one after another. -/
theorem filled_values {written : TagTarget → TagStyle → Except QueryError (List Piece)}
    (values : TagTarget → TagStyle → List Value) {parts : List Segment} {pieces : List Piece}
    (htag : ∀ target style found, .tag target style ∈ parts → written target style = .ok found →
      piecesValues found = values target style)
    (h : filled written parts = .ok pieces) :
    piecesValues pieces = (Template.tags parts).flatMap fun tag => values tag.1 tag.2 := by
  induction parts generalizing pieces with
  | nil =>
    obtain rfl := Except.ok.inj h
    rfl
  | cons part rest ih =>
    have hrest {tail : List Piece} := @ih tail fun target style found hmem =>
      htag target style found (List.mem_cons_of_mem _ hmem)
    cases part with
    | text text =>
      obtain ⟨tail, hfilled, rfl⟩ := exists_ok_of_map h
      rw [piecesValues, hrest hfilled]
      rfl
    | tag target style =>
      obtain ⟨found, tail, hfound, hfilled, rfl⟩ := exists_of_inTurn h
      rw [piecesValues_append, htag target style found List.mem_cons_self hfound, hrest hfilled]
      rfl

/-- The values of what a tag of a statement's template stands for. -/
def Statement.tagValues (s : Statement) (dialect : Dialect) (target : TagTarget) : List Value :=
  (target.clause?.map (s.clauseValues dialect)).getD []

/-- The values of a statement are those of the tags of its template. -/
theorem Statement.values_eq (s : Statement) (dialect : Dialect) :
    s.values dialect = (Template.tags (Template.tokenize (modeTemplate s.mode dialect))).flatMap
      fun tag => s.tagValues dialect tag.1 := by
  have hclauses := congrArg (List.flatMap fun found : Option Clause =>
    (found.map (s.clauseValues dialect)).getD []) (namedClauses_modeTemplate s.mode dialect)
  rw [namedClauses, List.flatMap_map, List.flatMap_map] at hclauses
  exact hclauses.symm

/-! ### Written values -/

section Written

variable {dialect : Dialect}

mutual

/-- An argument that is written has the values that stand in it. -/
theorem Argument.written_values {argument : Argument} {style : TagStyle} {pieces : List Piece}
    (h : argument.written style dialect = .ok pieces) :
    piecesValues pieces = argument.values dialect style := by
  match argument with
  | .literal value =>
    rw [Argument.written] at h
    obtain rfl := Except.ok.inj h
    exact piecesValues_valuePieces dialect style value
  | .expression e =>
    rw [Argument.written] at h
    rw [Argument.values]
    split at h
    · obtain ⟨inner, hinner, rfl⟩ := exists_ok_of_map h
      rw [piecesValues_parenthesized, e.written_values hinner]
    · exact e.written_values h
  | .statement s =>
    rw [Argument.written] at h
    obtain ⟨inner, hinner, rfl⟩ := exists_ok_of_map h
    rw [piecesValues_parenthesized, s.written_values hinner, Argument.values, Statement.values]
  | .list items =>
    rw [Argument.written] at h
    obtain ⟨groups, hgroups, rfl⟩ := exists_ok_of_map h
    rw [piecesValues_parenthesized, piecesValues_joinedPieces, itemsWritten_values hgroups,
      Argument.values, argumentsValues_eq, List.flatMap_map]
termination_by (argument.depth, 0, 0)
decreasing_by
  all_goals
    simp only [Argument.depth, Prod.lex_def]
    omega

/-- Several arguments that are written have the values that stand in them. -/
theorem itemsWritten_values {items : List Argument} {style : TagStyle}
    {groups : List (List Piece)} (h : itemsWritten items style dialect = .ok groups) :
    groups.flatMap piecesValues =
      items.flatMap fun argument => argument.values dialect style := by
  match items with
  | [] =>
    rw [itemsWritten] at h
    obtain rfl := Except.ok.inj h
    rfl
  | argument :: rest =>
    rw [itemsWritten] at h
    obtain ⟨pieces, following, hpieces, hfollowing, rfl⟩ := exists_of_inTurn h
    rw [List.flatMap_cons, List.flatMap_cons, argument.written_values hpieces,
      itemsWritten_values hfollowing]
termination_by (argumentsDepth items, 1, items.length)
decreasing_by
  all_goals
    simp only [argumentsDepth, Prod.lex_def, List.length_cons, true_and]
    omega

/-- An expression that is written has the values that stand in it. -/
theorem Expression.written_values {e : Expression} {pieces : List Piece}
    (h : e.written dialect = .ok pieces) : piecesValues pieces = e.values dialect := by
  rw [Expression.values_eq]
  match htemplate : e.template with
  | none =>
    rw [Expression.written, htemplate] at h
    cases h
  | some template =>
    rw [Expression.written_of_template htemplate] at h
    refine filled_values (fun target style =>
      ((e.argument? target).map (·.values dialect style)).getD [])
      (fun target style found _ hfound => ?_) h
    unfold Expression.tagWritten at hfound
    match hargument : e.argument? target with
    | some argument =>
      have hdepth := Expression.argument?_depth hargument
      rw [hargument] at hfound
      exact argument.written_values hfound
    | none =>
      rw [hargument] at hfound
      cases hfound
termination_by (e.depth, 1, 0)
decreasing_by
  simp only [Prod.lex_def]
  omega

/-- A statement that is written has the values that stand in it. -/
theorem Statement.written_values {s : Statement} {pieces : List Piece}
    (h : s.written dialect = .ok pieces) : piecesValues pieces = s.values dialect := by
  have hclause (part : Clause) (found : List Piece)
      (hfound : s.clauseWritten dialect part = .ok found) :
      piecesValues found = s.clauseValues dialect part := by
    unfold Statement.clauseWritten at hfound
    match hbuilt : s.clause dialect part with
    | .ok e =>
      have hdepth := Statement.clause_depth_le hbuilt
      rw [hbuilt] at hfound
      rw [← Statement.clause_values hbuilt]
      exact e.written_values hfound
    | .error error =>
      rw [hbuilt] at hfound
      cases hfound
  rw [Statement.written_eq_filled] at h
  rw [Statement.values_eq]
  refine filled_values (fun target _ => s.tagValues dialect target)
    (fun target style found _ hfound => ?_) h
  unfold Statement.tagWritten at hfound
  unfold Statement.tagValues
  match htarget : target.clause? with
  | none =>
    rw [htarget] at hfound
    cases hfound
  | some part =>
    rw [htarget] at hfound
    exact hclause part found hfound
termination_by (s.depth, 2, 0)
decreasing_by
  simp only [Prod.lex_def]
  omega

end

end Written

/-! ### Bound values -/

/-- The parameters of values, named in order. -/
def namedParams (values : List Value) : List (String × Value) :=
  values.mapIdx fun i value => (placeholderName i, value)

/-- The values of pieces are those around which the texts stand. -/
theorem valueHoles_values (pieces : List Piece) :
    (valueHoles pieces).map (·.1) = piecesValues pieces := by
  induction pieces with
  | nil => rfl
  | cons piece rest ih =>
    cases piece with
    | text text => exact ih
    | value value => exact congrArg (value :: ·) ih

/-- The query of pieces has their values as parameters, named in order. -/
theorem RenderedQuery.params_ofPieces (pieces : List Piece) :
    (ofPieces pieces).params = namedParams (piecesValues pieces) := by
  rw [ofPieces, boundParams, namedParams, ← valueHoles_values]
  refine List.ext_getElem? fun i => ?_
  simp [List.getElem?_mapIdx, Option.map_map, Function.comp_def]

/-- A statement that becomes a query has its values as parameters, named in order. -/
theorem Statement.params_of_render {s : Statement} {query : RenderedQuery}
    (h : s.render = .ok query) : query.params = namedParams (s.values s.dialect) := by
  rw [render_eq_written] at h
  obtain ⟨pieces, hwritten, rfl⟩ := exists_ok_of_map h
  rw [RenderedQuery.params_ofPieces, written_values hwritten]

end ScopeQuery
