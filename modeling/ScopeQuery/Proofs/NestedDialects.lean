import ScopeQuery.Compile.Scope
import ScopeQuery.Proofs.StandingNodes

/-!
# Dialects of nested statements

Every statement stores a dialect, and only that of the outermost one counts: nodes that differ
in nothing but the dialects of the statements inside them are rendered to the same text with the
same parameters, or fail with the same error. Two such nodes become equal when all dialects in
them are set to one. They are alike in the sense that no value may stand for another, so what is
known of alike renderings makes what they come to equal. And what a node comes to is written in
the dialect of the whole, with everything that stands in it.
-/

namespace ScopeQuery

/-! ### Setting every dialect -/

mutual

/-- The argument with one dialect in all statements in it. -/
def Argument.inDialect (dialect : Dialect) : Argument → Argument
  | .literal value => .literal value
  | .expression e => .expression (e.inDialect dialect)
  | .statement s => .statement (s.inDialect dialect)
  | .list items => .list (argumentsInDialect dialect items)

/-- Several arguments with one dialect. -/
def argumentsInDialect (dialect : Dialect) : List Argument → List Argument
  | [] => []
  | argument :: rest => argument.inDialect dialect :: argumentsInDialect dialect rest

/-- Several named arguments with one dialect. -/
def namedInDialect (dialect : Dialect) : List NamedArgument → List NamedArgument
  | [] => []
  | ⟨name, argument⟩ :: rest => ⟨name, argument.inDialect dialect⟩ :: namedInDialect dialect rest

/-- The expression with one dialect in all statements in it. -/
def Expression.inDialect (dialect : Dialect) : Expression → Expression
  | ⟨template, operands, named, wrapped⟩ =>
    ⟨template, argumentsInDialect dialect operands, namedInDialect dialect named, wrapped⟩

/-- Several tables or fields with one dialect. -/
def sourcesInDialect (dialect : Dialect) : List Source → List Source
  | [] => []
  | ⟨aliasName, source⟩ :: rest =>
    ⟨aliasName, source.inDialect dialect⟩ :: sourcesInDialect dialect rest

/-- Several joined tables with one dialect. -/
def joinsInDialect (dialect : Dialect) : List Join → List Join
  | [] => []
  | ⟨kind, table, aliasName, .columns left right⟩ :: rest =>
    ⟨kind, table, aliasName, .columns left right⟩ :: joinsInDialect dialect rest
  | ⟨kind, table, aliasName, .expression e⟩ :: rest =>
    ⟨kind, table, aliasName, .expression (e.inDialect dialect)⟩ :: joinsInDialect dialect rest

/-- The predicate with one dialect in all statements in it. -/
def Predicate.inDialect (dialect : Dialect) : Predicate → Predicate
  | .comparison field operator value =>
    .comparison (field.inDialect dialect) operator (value.inDialect dialect)
  | .fragment fragment => .fragment (fragment.inDialect dialect)
  | .group junction predicates => .group junction (predicatesInDialect dialect predicates)

/-- Several predicates with one dialect. -/
def predicatesInDialect (dialect : Dialect) : List Predicate → List Predicate
  | [] => []
  | predicate :: rest => predicate.inDialect dialect :: predicatesInDialect dialect rest

/-- Several sort keys with one dialect. -/
def orderInDialect (dialect : Dialect) : List OrderItem → List OrderItem
  | [] => []
  | ⟨field, direction⟩ :: rest =>
    ⟨field.inDialect dialect, direction⟩ :: orderInDialect dialect rest

/-- Several set fields with one dialect. -/
def assignmentsInDialect (dialect : Dialect) : List Assignment → List Assignment
  | [] => []
  | ⟨field, value⟩ :: rest =>
    ⟨field, value.inDialect dialect⟩ :: assignmentsInDialect dialect rest

/-- The statement with one dialect, as all statements in it. -/
def Statement.inDialect (dialect : Dialect) : Statement → Statement
  | ⟨_, mode, options, fields, tables, joins, wheres, groups, havings, order, limit,
      assignments⟩ =>
    ⟨dialect, mode, options, sourcesInDialect dialect fields, sourcesInDialect dialect tables,
      joinsInDialect dialect joins, predicatesInDialect dialect wheres,
      argumentsInDialect dialect groups, predicatesInDialect dialect havings,
      orderInDialect dialect order, limit, assignmentsInDialect dialect assignments⟩

end

/-! ### Nodes in one dialect are alike -/

section SelfAlike

variable {R : Value → Value → Prop}

/-- Arguments of one name of which one may stand for the other in the place of any tag. -/
def NamedArgument.Fixed (R : Value → Value → Prop) (entry other : NamedArgument) : Prop :=
  entry.name = other.name ∧ entry.argument.Fixed R other.argument

/-- Lists that are related one by one have related entries, or none, at every place. -/
theorem getElem?_rel {α : Type} {A : α → α → Prop} {items others : List α}
    (h : List.Forall₂ A items others) (i : Nat) : Option.Rel A items[i]? others[i]? := by
  induction h generalizing i with
  | nil => exact .none
  | cons hitem _ ih =>
    cases i with
    | zero => exact .some hitem
    | succ i => exact ih i

/-- Of named arguments that are alike one by one, those under a name are alike. -/
theorem named_rel {named otherNamed : List NamedArgument}
    (h : List.Forall₂ (NamedArgument.Fixed R) named otherNamed) (name : String) :
    Option.Rel (Argument.Fixed R)
      ((named.find? fun entry => entry.name == name).map (·.argument))
      ((otherNamed.find? fun entry => entry.name == name).map (·.argument)) := by
  induction h with
  | nil => exact .none
  | cons hentry _ ih =>
    rw [List.find?_cons, List.find?_cons, hentry.1]
    split
    · exact .some hentry.2
    · exact ih

/-- Expressions with arguments that are alike in the place of any tag are alike. -/
theorem Expression.alike_of_arguments {template : Option String} {wrapped : Bool}
    {operands others : List Argument} {named otherNamed : List NamedArgument}
    (hoperands : List.Forall₂ (Argument.Fixed R) operands others)
    (hnamed : List.Forall₂ (NamedArgument.Fixed R) named otherNamed) :
    Expression.Alike R ⟨template, operands, named, wrapped⟩
      ⟨template, others, otherNamed, wrapped⟩ := by
  have harguments (target : TagTarget) : Option.Rel (Argument.Fixed R)
      (argument? ⟨template, operands, named, wrapped⟩ target)
      (argument? ⟨template, others, otherNamed, wrapped⟩ target) := by
    cases target with
    | position i => exact getElem?_rel hoperands i
    | name name => exact named_rel hnamed name
  have hpresent {argument other : Option Argument}
      (h : Option.Rel (Argument.Fixed R) argument other) : argument.isSome = other.isSome := by
    cases h <;> rfl
  refine .intro (fun target => hpresent (harguments target))
    fun _ _ target style _ argument other hleft hright => ?_
  · have hpair := harguments target
    rw [hleft, hright] at hpair
    cases hpair with
    | some hpair => exact hpair style

mutual

/-- An argument is alike to itself in another dialect. -/
theorem Argument.fixed_inDialect (dialect : Dialect) (argument : Argument) :
    argument.Fixed R (argument.inDialect dialect) := by
  intro style
  match argument with
  | .literal value => exact .literal value
  | .expression e => exact .expression (e.alike_inDialect dialect)
  | .statement s => exact .statement (s.alike_inDialect dialect)
  | .list items =>
    obtain ⟨hlength, hitems⟩ := List.forall₂_iff_zip.1 (argumentsInDialect_fixed dialect items)
    exact .list hlength fun hpair => hitems hpair style

/-- Several arguments are alike to themselves in another dialect. -/
theorem argumentsInDialect_fixed (dialect : Dialect) (items : List Argument) :
    List.Forall₂ (Argument.Fixed R) items (argumentsInDialect dialect items) := by
  match items with
  | [] => exact .nil
  | argument :: rest =>
    exact .cons (argument.fixed_inDialect dialect) (argumentsInDialect_fixed dialect rest)

/-- Several named arguments are alike to themselves in another dialect. -/
theorem namedInDialect_fixed (dialect : Dialect) (named : List NamedArgument) :
    List.Forall₂ (NamedArgument.Fixed R) named (namedInDialect dialect named) := by
  match named with
  | [] => exact .nil
  | ⟨name, argument⟩ :: rest =>
    exact .cons ⟨rfl, argument.fixed_inDialect dialect⟩ (namedInDialect_fixed dialect rest)

/-- An expression is alike to itself in another dialect. -/
theorem Expression.alike_inDialect (dialect : Dialect) (e : Expression) :
    e.Alike R (e.inDialect dialect) := by
  match e with
  | ⟨_, operands, named, _⟩ =>
    exact Expression.alike_of_arguments (argumentsInDialect_fixed dialect operands)
      (namedInDialect_fixed dialect named)

/-- Several tables or fields are alike to themselves in another dialect. -/
theorem sourcesInDialect_alike (dialect : Dialect) (sources : List Source) :
    List.Forall₂ (Source.Alike R) sources (sourcesInDialect dialect sources) := by
  match sources with
  | [] => exact .nil
  | ⟨aliasName, source⟩ :: rest =>
    exact .cons (.intro aliasName (source.fixed_inDialect dialect .soft))
      (sourcesInDialect_alike dialect rest)

/-- Several joined tables are alike to themselves in another dialect. -/
theorem joinsInDialect_alike (dialect : Dialect) (joins : List Join) :
    List.Forall₂ (Join.Alike R) joins (joinsInDialect dialect joins) := by
  match joins with
  | [] => exact .nil
  | ⟨kind, table, aliasName, .columns left right⟩ :: rest =>
    exact .cons (.columns kind table aliasName left right) (joinsInDialect_alike dialect rest)
  | ⟨kind, table, aliasName, .expression e⟩ :: rest =>
    exact .cons (.expression kind table aliasName (e.alike_inDialect dialect))
      (joinsInDialect_alike dialect rest)

/-- A predicate is alike to itself in another dialect. -/
theorem Predicate.alike_inDialect (dialect : Dialect) (predicate : Predicate) :
    predicate.Alike R (predicate.inDialect dialect) := by
  match predicate with
  | .comparison field operator value =>
    have hnull : value.isNull = (value.inDialect dialect).isNull := by
      cases value <;> rfl
    exact .comparison operator (field.fixed_inDialect dialect .soft)
      (value.fixed_inDialect dialect .param) hnull
  | .fragment fragment => exact .fragment (fragment.fixed_inDialect dialect .param)
  | .group junction predicates =>
    exact .group junction (predicatesInDialect_alike dialect predicates)

/-- Several predicates are alike to themselves in another dialect. -/
theorem predicatesInDialect_alike (dialect : Dialect) (predicates : List Predicate) :
    List.Forall₂ (Predicate.Alike R) predicates (predicatesInDialect dialect predicates) := by
  match predicates with
  | [] => exact .nil
  | predicate :: rest =>
    exact .cons (predicate.alike_inDialect dialect) (predicatesInDialect_alike dialect rest)

/-- Several sort keys are alike to themselves in another dialect. -/
theorem orderInDialect_alike (dialect : Dialect) (order : List OrderItem) :
    List.Forall₂ (OrderItem.Alike R) order (orderInDialect dialect order) := by
  match order with
  | [] => exact .nil
  | ⟨field, direction⟩ :: rest =>
    exact .cons (.intro (field.fixed_inDialect dialect .soft) direction)
      (orderInDialect_alike dialect rest)

/-- Several set fields are alike to themselves in another dialect. -/
theorem assignmentsInDialect_alike (dialect : Dialect) (assignments : List Assignment) :
    List.Forall₂ (Assignment.Alike R) assignments (assignmentsInDialect dialect assignments) := by
  match assignments with
  | [] => exact .nil
  | ⟨field, value⟩ :: rest =>
    exact .cons (.intro field (value.fixed_inDialect dialect .param))
      (assignmentsInDialect_alike dialect rest)

/-- A statement is alike to itself in another dialect. -/
theorem Statement.alike_inDialect (dialect : Dialect) (s : Statement) :
    s.Alike R (s.inDialect dialect) := by
  match s with
  | ⟨own, mode, options, fields, tables, joins, wheres, groups, havings, order, limit,
      assignments⟩ =>
    have hgroups : List.Forall₂ (Argument.Alike R .soft) groups
        (argumentsInDialect dialect groups) :=
      (argumentsInDialect_fixed dialect groups).imp fun _ _ h => h .soft
    have hlimit : Option.Rel (RowLimit.Alike R) limit limit := by
      cases limit with
      | none => exact .none
      | some limit => exact .some ⟨.inl rfl, .inl rfl⟩
    exact .intro own dialect mode options (sourcesInDialect_alike dialect fields)
      (sourcesInDialect_alike dialect tables) (joinsInDialect_alike dialect joins)
      (predicatesInDialect_alike dialect wheres) hgroups
      (predicatesInDialect_alike dialect havings) (orderInDialect_alike dialect order) hlimit
      (assignmentsInDialect_alike dialect assignments)

end

end SelfAlike

/-! ### Alike without other values -/

/-- The relation under which every value stands for itself only. -/
abbrev NoOther : Value → Value → Prop := fun _ _ => False

/-- A value stands for itself only. -/
theorem Value.Alike.eq {v w : Value} (h : v.Alike NoOther w) : v = w :=
  h.resolve_right fun hother => hother.1

/-- Values that stand for themselves only are the same one by one. -/
theorem eq_of_forall₂ {α : Type} {A : α → α → Prop} (hitem : ∀ a b, A a b → a = b)
    {items others : List α} (h : List.Forall₂ A items others) : items = others :=
  List.forall₂_eq_eq_eq ▸ h.imp hitem

/-- Pieces that are alike are the same. -/
theorem PiecesAlike.eq {pieces others : List Piece} (h : PiecesAlike NoOther pieces others) :
    pieces = others := by
  refine eq_of_forall₂ (fun piece other hpiece => ?_) h
  cases hpiece with
  | text text => rfl
  | value hvalue => rw [hvalue.eq]

/-- What is alike as a parameter is alike as a soft identifier. -/
theorem Argument.Alike.soft {argument other : Argument}
    (h : argument.Alike NoOther .param other) : argument.Alike NoOther .soft other := by
  match argument, other, h with
  | _, _, .literal v => exact .literal v
  | _, _, .value hvalue =>
    rw [hvalue.eq]
    exact .literal _
  | _, _, .array hitems =>
    rw [eq_of_forall₂ (fun _ _ hitem => Value.Alike.eq hitem) hitems]
    exact .literal _
  | _, _, .expression h => exact .expression h
  | _, _, .statement h => exact .statement h
  | .list _, .list _, .list hlength h => exact .list hlength fun hpair => (h hpair).soft
termination_by sizeOf argument
decreasing_by
  have hitem := List.sizeOf_lt_of_mem (List.of_mem_zip hpair).1
  simp only [list.sizeOf_spec]
  omega

/-- Errors that are alike are the same. -/
theorem QueryError.Alike.eq {error other : QueryError} (h : error.Alike NoOther other) :
    error = other := by
  cases h with
  | same error => rfl
  | listOperator hvalue operator => rw [hvalue.soft.describe_eq]

/-- Outcomes that are alike are the same. -/
theorem AlikeOutcomes.eq {outcome other : Except QueryError (List Piece)}
    (h : AlikeOutcomes NoOther (PiecesAlike NoOther) outcome other) : outcome = other :=
  h.elim (fun _ _ herror => congrArg Except.error herror.eq)
    fun _ _ hpieces => congrArg Except.ok hpieces.eq

/-! ### The dialect of the outermost node -/

/-- An expression comes to the same whatever the dialects in it. -/
theorem Expression.written_inDialect (e : Expression) (stored dialect : Dialect) :
    (e.inDialect stored).written dialect = e.written dialect :=
  (Expression.written_alike dialect (e.alike_inDialect stored)).eq.symm

/-- A statement comes to the same whatever its dialect and those in it. -/
theorem Statement.written_inDialect (s : Statement) (stored dialect : Dialect) :
    (s.inDialect stored).written dialect = s.written dialect :=
  (Statement.written_alike dialect (s.alike_inDialect stored)).eq.symm

/-- Expressions that differ in the dialects of statements in them only come to the same. -/
theorem Expression.written_congr {e f : Expression}
    (h : e.inDialect .generic = f.inDialect .generic) (dialect : Dialect) :
    e.written dialect = f.written dialect := by
  rw [← e.written_inDialect .generic, h, f.written_inDialect]

/-- Statements that differ in dialects only come to the same. -/
theorem Statement.written_congr {s t : Statement}
    (h : s.inDialect .generic = t.inDialect .generic) (dialect : Dialect) :
    s.written dialect = t.written dialect := by
  rw [← s.written_inDialect .generic, h, t.written_inDialect]

/-- A statement comes to the same whatever dialect it stores. -/
theorem Statement.written_setDialect (s : Statement) (stored dialect : Dialect) :
    ({ s with dialect := stored } : Statement).written dialect = s.written dialect := by
  refine Statement.written_congr ?_ dialect
  cases s
  rfl

/-- A statement that is rendered in a dialect is written in it. -/
theorem Statement.render_setDialect (s : Statement) (dialect : Dialect) :
    { s with dialect }.render = (s.written dialect).map RenderedQuery.ofPieces := by
  rw [render_eq_written, written_setDialect]

/-- A statement that is read in a dialect is written in it. -/
theorem Statement.inspect_setDialect (s : Statement) (dialect : Dialect) :
    { s with dialect }.inspect = (s.written dialect).map inspectedText := by
  rw [inspect_eq_written, written_setDialect]

section Compiler

variable {R : Type} [Relationships R] {compiler : Compiler R} {selection : Selection}

/-- The statement that a compiler makes has the compiler's dialect. -/
theorem Compiler.dialect_of_select {statement : Statement}
    (h : compiler.select selection = .ok statement) : statement.dialect = compiler.dialect := by
  let reading : Statement :=
    { dialect := compiler.dialect, tables := [⟨none, .text selection.entity⟩] }
  have hselect : compiler.select selection =
      (compiler.selectionPredicates reading selection).map reading.addWheres := rfl
  rw [hselect] at h
  obtain ⟨predicates, -, rfl⟩ := exists_ok_of_map h
  rfl

/-- What a compiler makes is written in the compiler's dialect. -/
theorem Compiler.compile_eq_written (compiler : Compiler R) (selection : Selection) :
    compiler.compile selection = (compiler.select selection).bind fun statement =>
      ((statement.written compiler.dialect).map RenderedQuery.ofPieces).mapError
        CompileError.query := by
  rw [Compiler.compile]
  cases hselect : compiler.select selection with
  | error error => rfl
  | ok statement =>
    dsimp only [Except.bind]
    rw [← Compiler.dialect_of_select hselect, ← Statement.render_eq_written]
    cases statement.render <;> rfl

end Compiler

/-- Only the dialect of the outermost node counts. Expressions, and statements rendered in one
dialect, that differ in nothing but the dialects of the statements nested in them become the same
query or fail with the same error, and so do their forms for reading. What a compiler makes is
rendered as if every sub-query in it, for whatever relationship, had been made in the compiler's
dialect.

All of it is written in that dialect: a query is what the node comes to in the dialect it is
rendered in, the compiler's for what a compiler makes, and each node of it is rendered as it is
alone in the session of that dialect, with the names quoted, the statements laid out, the rows
limited and the operators spelled as the dialect has it. -/
theorem nested_dialects_irrelevant :
    (∀ e f : Expression, e.inDialect .generic = f.inDialect .generic → ∀ dialect,
      e.render dialect = f.render dialect ∧ e.inspect dialect = f.inspect dialect) ∧
    (∀ s t : Statement, s.inDialect .generic = t.inDialect .generic → ∀ dialect,
      { s with dialect }.render = { t with dialect }.render ∧
        { s with dialect }.inspect = { t with dialect }.inspect) ∧
    (∀ {R : Type} [Relationships R] (compiler : Compiler R) (selection : Selection),
      compiler.compile selection =
        match compiler.select selection with
        | .error error => .error error
        | .ok statement =>
          (statement.inDialect compiler.dialect).render.mapError CompileError.query) ∧
    (∀ (e : Expression) dialect,
      e.render dialect = (e.written dialect).map RenderedQuery.ofPieces ∧
        e.inspect dialect = (e.written dialect).map inspectedText) ∧
    (∀ (s : Statement) dialect,
      { s with dialect }.render = (s.written dialect).map RenderedQuery.ofPieces ∧
        { s with dialect }.inspect = (s.written dialect).map inspectedText) ∧
    (∀ {R : Type} [Relationships R] (compiler : Compiler R) (selection : Selection),
      compiler.compile selection = (compiler.select selection).bind fun statement =>
        ((statement.written compiler.dialect).map RenderedQuery.ofPieces).mapError
          CompileError.query) ∧
    (∀ (node : PlacedNode) session,
      node.renderInto session = (node.written session.dialect).map session.write) ∧
    ∀ dialect (node : PlacedNode) pieces, node.written dialect = .ok pieces →
      node.Follows dialect pieces := by
  refine ⟨fun e f h dialect => ?_, fun s t h dialect => ?_, fun compiler selection => ?_,
    fun e dialect => ⟨e.render_eq_written dialect, e.inspect_eq_written dialect⟩,
    fun s dialect => ⟨s.render_setDialect dialect, s.inspect_setDialect dialect⟩,
    Compiler.compile_eq_written, PlacedNode.renderInto_eq_written,
    fun dialect node pieces => PlacedNode.follows⟩
  · simp only [Expression.render_eq_written, Expression.inspect_eq_written,
      Expression.written_congr h, and_self]
  · simp only [Statement.render_setDialect, Statement.inspect_setDialect,
      Statement.written_congr h, and_self]
  · rw [Compiler.compile_eq_written]
    cases compiler.select selection with
    | error error => rfl
    | ok statement =>
      have hdialect : (statement.inDialect compiler.dialect).dialect = compiler.dialect := by
        cases statement
        rfl
      dsimp only [Except.bind]
      rw [Statement.render_eq_written, hdialect, Statement.written_inDialect]

/-- The first users whose name matches a pattern, in a dialect. -/
def namedUsers (dialect : Dialect) : Statement where
  dialect := dialect
  fields := [⟨none, .text "id"⟩]
  tables := [⟨none, .text "users"⟩]
  wheres := [.comparison (.text "name") (some .like) (.literal (.string "a%"))]
  limit := some ⟨5, 0⟩

/-- The rows of a table whose column matches a value, in a dialect. -/
def matching (dialect : Dialect) (table column : String) (operator : Operator) (value : Argument) :
    Statement :=
  .readingAll dialect table [.comparison (.text column) (some operator) value]

/-- What is rendered in every session comes to pieces. -/
theorem AlwaysRenders.exists_pieces {dialect : Dialect} {render : Session → Rendering}
    {outcome : Except QueryError (List Piece)} (h : AlwaysRenders render)
    (hsettles : Settles dialect render outcome) : ∃ pieces, outcome = .ok pieces := by
  obtain ⟨result, hresult⟩ := h (.bound dialect)
  rw [hsettles (.bound dialect) rfl] at hresult
  obtain ⟨pieces, hpieces, -⟩ := exists_ok_of_map hresult
  exact ⟨pieces, hpieces⟩

/-- Matching rows always have a text when the value has one and is neither null nor a list. -/
theorem matching_alwaysRenders (stored : Dialect) (table column : String) (operator : Operator)
    {value : Argument} (hnull : value.isNull = false) (hlist : value.isList = false)
    (hvalue : value.AlwaysRenders) :
    AlwaysRenders (matching stored table column operator value).renderInto := by
  have hwheres : ComeTo
      (Predicate.allLeaves [.comparison (.text column) (some operator) value]) none := by
    intro dialect
    have hcomparison : comparisonExpression dialect (.text column) (some operator) value =
        .ok (.ofTemplate (comparisonTemplate operator dialect)
          [.text column, comparedValue operator value]) := by
      simp [comparisonExpression, hnull, hlist]
    refine ⟨[.ofTemplate (comparisonTemplate operator dialect)
      [.text column, comparedValue operator value]], ?_, List.forall_mem_singleton.2 ?_⟩
    · simp [Predicate.allLeaves, Predicate.leaves, predicateExpressions, Predicate.toExpression,
        hcomparison]
    exact comparisonExpression_alwaysRenders hcomparison (Argument.text_alwaysRenders column) hvalue
  exact Statement.reading_alwaysRenders
    (Statement.allFields_alwaysRender stored [⟨none, .text table⟩] _)
    (Statement.oneTable_alwaysRenders stored [] _ none table) hwheres

/-- Reading from named users, and asking for some, whose statement was made for one database or
for another. Users that were made for one database are matched as another one matches them inside
of orders that are read there. -/
theorem nested_dialects_irrelevant_of_namedUsers :
    (Expression.ofTemplate "exists []" [.statement (namedUsers .generic)]).render .oracle =
      (Expression.ofTemplate "exists []" [.statement (namedUsers .mysql)]).render .oracle ∧
    Statement.render
        { dialect := .postgres, tables := [⟨some "u", .statement (namedUsers .generic)⟩] } =
      Statement.render
        { dialect := .postgres, tables := [⟨some "u", .statement (namedUsers .mssql)⟩] } ∧
    ∃ pieces, (matching .mysql "orders" "user_id" .isIn
        (.statement (matching .mysql "users" "name" .like (.literal (.string "a%"))))).written
          .postgres = .ok pieces ∧
      [.text (softIdentifier .postgres "name"), .text " ilike ", .value (.string "a%")] <:+:
        pieces := by
  obtain ⟨hexpressions, hstatements, -, -, -, -, -, hfollows⟩ := nested_dialects_irrelevant
  have hexists := hexpressions (.ofTemplate "exists []" [.statement (namedUsers .generic)])
    (.ofTemplate "exists []" [.statement (namedUsers .mysql)]) rfl .oracle
  have hreading := hstatements
    { dialect := .generic, tables := [⟨some "u", .statement (namedUsers .generic)⟩] }
    { dialect := .generic, tables := [⟨some "u", .statement (namedUsers .mssql)⟩] }
    rfl .postgres
  -- The orders are a query, because the users in them are one.
  have husers := matching_alwaysRenders .mysql "users" "name" .like rfl rfl
    (Argument.literal_alwaysRenders (.string "a%"))
  have horders := matching_alwaysRenders .mysql "orders" "user_id" .isIn rfl rfl
    (Argument.statement_alwaysRenders husers)
  obtain ⟨pieces, hpieces⟩ := horders.exists_pieces
    (Statement.renderInto_settles _ .postgres)
  have hnamed : PredicateClause.wheres.clause ∈ Mode.select.clauses .postgres := by decide
  have hstands := PlacedNode.StandsIn.of_comparison hnamed
    (List.mem_singleton_self _) rfl rfl hpieces
  have hfollowed := hfollows .postgres (.statement _) pieces hpieces
  obtain ⟨part, hpart, hinfix⟩ := hfollowed.operators
    (.head (.statement _ .param) hstands) hnamed (List.mem_singleton_self _) rfl rfl
  have hlike : Template.tokenize (comparisonTemplate .like .postgres) =
      [.tag (.position 0) .soft, .text " ilike ", .tag (.position 1) .param] :=
    (Template.tokenize_ofList _).trans (by decide +kernel)
  have hliteral (value : Value) (style : TagStyle) :
      (Argument.literal value).written style .postgres =
        .ok (valuePieces .postgres style value) := Argument.written.eq_1 _ _ _
  rw [Option.getD_some, Expression.written_of_template rfl, hlike] at hpart
  simp only [filled, Expression.tagWritten, Expression.argument?, Expression.ofTemplate,
    comparedValue, Argument.text, List.getElem?_cons_zero, List.getElem?_cons_succ,
    hliteral] at hpart
  obtain rfl := Except.ok.inj hpart
  exact ⟨hexists.1, hreading.1, pieces, hpieces, hinfix⟩

end ScopeQuery
