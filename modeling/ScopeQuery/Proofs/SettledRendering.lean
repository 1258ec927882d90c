import ScopeQuery.Proofs.RenderedPieces

/-!
# Settled rendering

Rendering an argument, an expression or a statement is settled by the node and the
dialect. The induction follows the renderer through nested expressions, lists and
sub-queries, and ends where the renderer does.
-/

namespace ScopeQuery

/-- The text of what a tag of an expression's template stands for. -/
def Expression.renderTag (e : Expression) (template : String) (target : TagTarget)
    (style : TagStyle) (session : Session) : Rendering :=
  match e.argument? target with
  | some argument => argument.renderInto style session
  | none => .error (.unknownTag target.label template)

/-- An expression is its template with every tag rendered. -/
theorem Expression.renderInto_of_template {e : Expression} {template : String}
    (h : e.template = some template) (session : Session) :
    e.renderInto session = fill (e.renderTag template) (Template.tokenize template) session := by
  rw [Expression.renderInto, h]
  dsimp only
  congr 1
  funext target style session
  unfold renderTag
  split <;> simp_all

/-- The clause that a tag of a statement's template stands for. -/
def TagTarget.clause? : TagTarget → Option Clause
  | .position _ => none
  | .name tag => Clause.ofTag? tag

/-- The text of what a tag of a statement's template stands for. -/
def Statement.renderTag (s : Statement) (template : String) (target : TagTarget)
    (_ : TagStyle) (session : Session) : Rendering :=
  match target.clause? with
  | none => .error (.unknownTag target.label template)
  | some clause =>
    match s.clause session.dialect clause with
    | .ok e => e.renderInto session
    | .error error => .error error

/-- A statement is the template of its mode with every tag rendered. -/
theorem Statement.renderInto_eq_fill (s : Statement) (session : Session) :
    s.renderInto session = fill (s.renderTag (modeTemplate s.mode session.dialect))
      (Template.tokenize (modeTemplate s.mode session.dialect)) session := by
  rw [Statement.renderInto]
  congr 1
  funext target style after
  unfold renderTag TagTarget.clause?
  cases target with
  | position i => rfl
  | name tag =>
    dsimp only
    cases Clause.ofTag? tag with
    | none => rfl
    | some clause =>
      dsimp only
      split <;> simp_all

mutual

/-- What an argument comes to in a dialect, in the place of a tag of a style. -/
def Argument.written (argument : Argument) (style : TagStyle) (dialect : Dialect) :
    Except QueryError (List Piece) :=
  match argument with
  | .literal value => .ok (valuePieces dialect style value)
  | .expression e =>
    if e.wrapped then (e.written dialect).map parenthesized else e.written dialect
  | .statement s => (s.written dialect).map parenthesized
  | .list items =>
    (itemsWritten items style dialect).map fun groups => parenthesized (joinedPieces ", " groups)
termination_by (argument.depth, 0, 0)
decreasing_by
  all_goals
    simp only [Argument.depth, Prod.lex_def]
    omega

/-- What several arguments come to in a dialect. -/
def itemsWritten (items : List Argument) (style : TagStyle) (dialect : Dialect) :
    Except QueryError (List (List Piece)) :=
  match items with
  | [] => .ok []
  | argument :: rest =>
    inTurn List.cons (argument.written style dialect) (itemsWritten rest style dialect)
termination_by (argumentsDepth items, 1, items.length)
decreasing_by
  all_goals
    simp only [argumentsDepth, Prod.lex_def, List.length_cons, true_and]
    omega

/-- What an expression comes to in a dialect: its template with the pieces of every tag. -/
def Expression.written (e : Expression) (dialect : Dialect) : Except QueryError (List Piece) :=
  match e.template with
  | none => .error .noTemplate
  | some template =>
    filled (fun target style =>
      match _found : e.argument? target with
      | some argument => argument.written style dialect
      | none => .error (.unknownTag target.label template)) (Template.tokenize template)
termination_by (e.depth, 1, 0)
decreasing_by
  have := Expression.argument?_depth _found
  simp only [Prod.lex_def]
  omega

/-- What a statement comes to in a dialect: the dialect's template of its mode with the pieces
of every clause in the dialect. The dialect that the statement stores is not asked. -/
def Statement.written (s : Statement) (dialect : Dialect) : Except QueryError (List Piece) :=
  filled (fun target _ =>
    match target.clause? with
    | none => .error (.unknownTag target.label (modeTemplate s.mode dialect))
    | some clause =>
      match _built : s.clause dialect clause with
      | .ok e => e.written dialect
      | .error error => .error error) (Template.tokenize (modeTemplate s.mode dialect))
termination_by (s.depth, 2, 0)
decreasing_by
  have := Statement.clause_depth_le _built
  simp only [Prod.lex_def]
  omega

end

/-- What a tag of an expression's template comes to in a dialect. -/
def Expression.tagWritten (e : Expression) (template : String) (dialect : Dialect)
    (target : TagTarget) (style : TagStyle) : Except QueryError (List Piece) :=
  match e.argument? target with
  | some argument => argument.written style dialect
  | none => .error (.unknownTag target.label template)

/-- An expression comes to its template with the pieces of every tag. -/
theorem Expression.written_of_template {e : Expression} {template : String}
    (h : e.template = some template) (dialect : Dialect) :
    e.written dialect =
      filled (e.tagWritten template dialect) (Template.tokenize template) := by
  rw [Expression.written, h]
  dsimp only
  congr 1
  funext target style
  unfold tagWritten
  split <;> simp_all

/-- What a clause comes to in a dialect. -/
def Statement.clauseWritten (s : Statement) (dialect : Dialect) (clause : Clause) :
    Except QueryError (List Piece) :=
  match s.clause dialect clause with
  | .ok e => e.written dialect
  | .error error => .error error

/-- What a tag of a statement's template comes to in a dialect. -/
def Statement.tagWritten (s : Statement) (dialect : Dialect) (target : TagTarget) (_ : TagStyle) :
    Except QueryError (List Piece) :=
  match target.clause? with
  | none => .error (.unknownTag target.label (modeTemplate s.mode dialect))
  | some clause => s.clauseWritten dialect clause

/-- A statement comes to the template of its mode with the pieces of every tag. -/
theorem Statement.written_eq_filled (s : Statement) (dialect : Dialect) :
    s.written dialect =
      filled (s.tagWritten dialect) (Template.tokenize (modeTemplate s.mode dialect)) := by
  rw [Statement.written]
  congr 1
  funext target style
  unfold tagWritten clauseWritten
  split
  · rfl
  · split <;> simp_all

mutual

/-- An argument is rendered as it is written. -/
theorem Argument.renderInto_settles (argument : Argument) (style : TagStyle) (dialect : Dialect) :
    Settles dialect (argument.renderInto style) (argument.written style dialect) := by
  match argument with
  | .literal value =>
    intro session hdialect
    rw [Argument.renderInto, Session.writeValue_eq_write, hdialect, Argument.written]
    rfl
  | .expression e =>
    have he := e.renderInto_settles dialect
    rw [Argument.written]
    cases hwrapped : e.wrapped with
    | true =>
      refine he.parenthesize fun session => ?_
      rw [Argument.renderInto]
      cases e.renderInto session <;> simp [Except.map, hwrapped]
    | false =>
      refine he.congr fun session _ => ?_
      rw [Argument.renderInto]
      cases e.renderInto session <;> simp [hwrapped]
  | .statement s =>
    rw [Argument.written]
    refine (s.renderInto_settles dialect).parenthesize fun session => ?_
    rw [Argument.renderInto]
    cases s.renderInto session <;> rfl
  | .list items =>
    intro session hdialect
    rw [Argument.renderInto, renderItems_settles items style dialect session hdialect,
      Argument.written]
    cases itemsWritten items style dialect with
    | error error => rfl
    | ok groups =>
      simp only [Except.map, Session.write_parenthesized, Session.write_joinedPieces]
termination_by (argument.depth, 0, 0)
decreasing_by
  all_goals
    simp only [Argument.depth, Prod.lex_def]
    omega

/-- Several arguments are rendered as they are written. -/
theorem renderItems_settles (items : List Argument) (style : TagStyle) (dialect : Dialect) :
    ItemsSettle dialect (renderItems items style) (itemsWritten items style dialect) := by
  match items with
  | [] =>
    intro session _
    rw [renderItems, itemsWritten]
    rfl
  | argument :: rest =>
    have hargument := argument.renderInto_settles style dialect
    have hrest := renderItems_settles rest style dialect
    rw [itemsWritten]
    refine ItemsSettle.cons hargument hrest fun session => ?_
    rw [renderItems]
    cases argument.renderInto style session with
    | error error => rfl
    | ok result =>
      simp only [Except.bind]
      cases renderItems rest style result.2 <;> rfl
termination_by (argumentsDepth items, 1, items.length)
decreasing_by
  all_goals
    simp only [argumentsDepth, Prod.lex_def, List.length_cons, true_and]
    omega

/-- An expression is rendered as it is written. -/
theorem Expression.renderInto_settles (e : Expression) (dialect : Dialect) :
    Settles dialect e.renderInto (e.written dialect) := by
  match htemplate : e.template with
  | none =>
    intro session _
    rw [Expression.renderInto, Expression.written, htemplate]
    rfl
  | some template =>
    have htag (target : TagTarget) (style : TagStyle) :
        Settles dialect (e.renderTag template target style)
          (e.tagWritten template dialect target style) := by
      unfold Expression.renderTag Expression.tagWritten
      match hfound : e.argument? target with
      | some argument =>
        have hdepth := Expression.argument?_depth hfound
        exact argument.renderInto_settles style dialect
      | none => exact .fail _
    rw [Expression.written_of_template htemplate]
    exact (Settles.fill htag (Template.tokenize template)).congr fun session _ =>
      Expression.renderInto_of_template htemplate session
termination_by (e.depth, 1, 0)
decreasing_by
  simp only [Prod.lex_def]
  omega

/-- A statement is rendered as it is written. -/
theorem Statement.renderInto_settles (s : Statement) (dialect : Dialect) :
    Settles dialect s.renderInto (s.written dialect) := by
  have htag (target : TagTarget) (style : TagStyle) :
      Settles dialect (s.renderTag (modeTemplate s.mode dialect) target style)
        (s.tagWritten dialect target style) := by
    unfold Statement.renderTag Statement.tagWritten Statement.clauseWritten
    match target.clause? with
    | none => exact .fail _
    | some clause =>
      match hbuilt : s.clause dialect clause with
      | .ok e =>
        have hdepth := Statement.clause_depth_le hbuilt
        dsimp only
        rw [hbuilt]
        refine (e.renderInto_settles dialect).congr fun session hdialect => ?_
        rw [hdialect, hbuilt]
      | .error error =>
        dsimp only
        rw [hbuilt]
        refine (Settles.fail error).congr fun session hdialect => ?_
        rw [hdialect, hbuilt]
  rw [Statement.written_eq_filled]
  refine (Settles.fill htag (Template.tokenize (modeTemplate s.mode dialect))).congr
    fun session hdialect => ?_
  rw [Statement.renderInto_eq_fill, hdialect]
termination_by (s.depth, 2, 0)
decreasing_by
  simp only [Prod.lex_def]
  omega

end

/-- Rendering an argument is settled. -/
theorem Argument.renderInto_settled (argument : Argument) (style : TagStyle) (dialect : Dialect) :
    Settled dialect (argument.renderInto style) :=
  (argument.renderInto_settles style dialect).settled

/-- Rendering an expression is settled. -/
theorem Expression.renderInto_settled (e : Expression) (dialect : Dialect) :
    Settled dialect e.renderInto :=
  (e.renderInto_settles dialect).settled

/-- Rendering a statement is settled. -/
theorem Statement.renderInto_settled (s : Statement) (dialect : Dialect) :
    Settled dialect s.renderInto :=
  (s.renderInto_settles dialect).settled

/-- Rendering several arguments keeps the dialect. -/
theorem renderItems_dialect {items : List Argument} {style : TagStyle} {session after : Session}
    {texts : List String} (h : renderItems items style session = .ok (texts, after)) :
    after.dialect = session.dialect := by
  rw [renderItems_settles items style session.dialect session rfl] at h
  cases hwritten : itemsWritten items style session.dialect with
  | error error =>
    rw [hwritten] at h
    cases h
  | ok groups =>
    rw [hwritten] at h
    obtain ⟨-, rfl⟩ := Prod.mk.inj (Except.ok.inj h)
    exact session.writeAll_dialect groups

end ScopeQuery
