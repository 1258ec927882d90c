import ScopeQuery.Proofs.ClauseItems
import ScopeQuery.Proofs.TemplateTags

/-!
# Values of statements

The values of a statement in the order of its text, read off the statement: clause by clause as
the template of its mode names them, and in a clause part by part, through groups, lists,
expressions and sub-queries. Nothing here renders anything. A clause is made into an expression
before it is written, and the expression has the values that the statement holds for the clause.
-/

namespace ScopeQuery

/-! ### Values in order -/

/-- The values that are bound for a value: in the place of a parameter the value itself, or the
items of an array; a name binds nothing. -/
def Value.standing : Value → TagStyle → List Value
  | .array items, .param => items
  | value, .param => [value]
  | _, .identifier => []
  | _, .soft => []

/-- Whether the row limit of the dialect names the number of skipped rows first. -/
def Dialect.skipsFirst : Dialect → Bool
  | .mysql | .mssql | .oracle => true
  | _ => false

/-- What stands for the number of rows and what stands for that of skipped rows, each in its
place. -/
def Dialect.inPlaces {α : Type} (dialect : Dialect) (count skip : α) : List α :=
  if dialect.skipsFirst then [skip, count] else [count, skip]

/-- Whatever the order, the two places hold what stands for the two numbers. -/
theorem Dialect.mem_inPlaces {α : Type} {dialect : Dialect} {a count skip : α} :
    a ∈ dialect.inPlaces count skip ↔ a = count ∨ a = skip := by
  unfold inPlaces
  split
  · rw [List.mem_pair, or_comm]
  · rw [List.mem_pair]

/-- The largest number of rows, as it is bound. -/
def RowLimit.countValue (limit : RowLimit) : Value := .number (Number.ofNat limit.count.toNat)

/-- The number of skipped rows, as it is bound. -/
def RowLimit.skipValue (limit : RowLimit) : Value := .number (Number.ofNat limit.skip.toNat)

/-- The values of a tag, given those of the arguments in each style. -/
def TagTarget.values (operands : List (TagStyle → List Value))
    (named : List (String × (TagStyle → List Value))) (style : TagStyle) : TagTarget → List Value
  | .position i => (operands[i]?.map (· style)).getD []
  | .name text => ((named.find? fun entry => entry.1 == text).map (·.2 style)).getD []

mutual

/-- The values of an argument in the place of a tag of a style. -/
def Argument.values (dialect : Dialect) : Argument → TagStyle → List Value
  | .literal value, style => value.standing style
  | .expression e, _ => e.values dialect
  | .statement s, _ => (s.mode.clauses dialect).flatMap (s.clauseValues dialect)
  | .list items, style => (argumentsValues dialect items).flatMap (· style)

/-- The values of each of several arguments. -/
def argumentsValues (dialect : Dialect) : List Argument → List (TagStyle → List Value)
  | [] => []
  | argument :: rest => argument.values dialect :: argumentsValues dialect rest

/-- The values of each of several named arguments. -/
def namedValues (dialect : Dialect) : List NamedArgument → List (String × (TagStyle → List Value))
  | [] => []
  | ⟨name, argument⟩ :: rest => (name, argument.values dialect) :: namedValues dialect rest

/-- The values of an expression: those of the tags of its template, one after another. -/
def Expression.values (dialect : Dialect) : Expression → List Value
  | ⟨template, operands, named, _⟩ =>
    (Template.tags (Template.tokenize (template.getD ""))).flatMap fun tag =>
      tag.1.values (argumentsValues dialect operands) (namedValues dialect named) tag.2

/-- The values of each of several tables or fields. -/
def sourcesValues (dialect : Dialect) : List Source → List (List Value)
  | [] => []
  | ⟨_, source⟩ :: rest => source.values dialect .soft :: sourcesValues dialect rest

/-- The values of several joined tables: those of the conditions that are expressions. -/
def joinsValues (dialect : Dialect) : List Join → List Value
  | [] => []
  | ⟨_, _, _, .columns _ _⟩ :: rest => joinsValues dialect rest
  | ⟨_, _, _, .expression e⟩ :: rest => e.values dialect ++ joinsValues dialect rest

/-- The values of a predicate. A comparison has those of its field and then those of its value;
of null it tests the field alone, and of an empty list nothing is asked. -/
def Predicate.values (dialect : Dialect) : Predicate → List Value
  | .comparison field _ value =>
    if value.isEmptyList then []
    else if value.isNull then field.values dialect .soft
    else field.values dialect .soft ++ value.values dialect .param
  | .fragment fragment => fragment.values dialect .param
  | .group _ predicates => predicatesValues dialect predicates

/-- The values of several predicates. -/
def predicatesValues (dialect : Dialect) : List Predicate → List Value
  | [] => []
  | predicate :: rest => predicate.values dialect ++ predicatesValues dialect rest

/-- The values of several sort keys. -/
def orderValues (dialect : Dialect) : List OrderItem → List Value
  | [] => []
  | ⟨field, _⟩ :: rest => field.values dialect .soft ++ orderValues dialect rest

/-- The values that several fields are set to. -/
def assignmentsValues (dialect : Dialect) : List Assignment → List Value
  | [] => []
  | ⟨_, value⟩ :: rest => value.values dialect .param ++ assignmentsValues dialect rest

/-- The values of a clause of a statement. -/
def Statement.clauseValues (dialect : Dialect) : Statement → Clause → List Value
  | ⟨_, _, _, fields, tables, joins, wheres, groups, havings, order, limit, assignments⟩, clause =>
    match clause with
    | .options => []
    | .fields => (sourcesValues dialect fields).flatten
    | .tables => (sourcesValues dialect tables).flatten
    | .tableNoAlias => (sourcesValues dialect tables).headD []
    | .joins => joinsValues dialect joins
    | .wheres => predicatesValues dialect wheres
    | .groups => (argumentsValues dialect groups).flatMap (· .soft)
    | .havings => predicatesValues dialect havings
    | .order => orderValues dialect order
    | .limit => (limit.map fun limit => dialect.inPlaces limit.countValue limit.skipValue).getD []
    | .assignments => assignmentsValues dialect assignments
    | .setFields => []
    | .setValues => assignmentsValues dialect assignments

end

/-- The values of a statement: those of the clauses in its text, one after another. -/
def Statement.values (dialect : Dialect) (s : Statement) : List Value :=
  (s.mode.clauses dialect).flatMap (s.clauseValues dialect)

/-! ### Values of lists -/

section Lists

variable {dialect : Dialect}

/-- Several arguments have the values of each. -/
theorem argumentsValues_eq (items : List Argument) :
    argumentsValues dialect items = items.map (Argument.values dialect) := by
  induction items with
  | nil => rfl
  | cons argument rest ih => rw [argumentsValues, ih, List.map_cons]

/-- Several named arguments have the values of each. -/
theorem namedValues_eq (named : List NamedArgument) :
    namedValues dialect named =
      named.map fun entry => (entry.name, entry.argument.values dialect) := by
  induction named with
  | nil => rfl
  | cons entry rest ih =>
    obtain ⟨name, argument⟩ := entry
    rw [namedValues, ih, List.map_cons]

/-- Several sources have the values of each. -/
theorem sourcesValues_eq (sources : List Source) :
    sourcesValues dialect sources =
      sources.map fun source => source.source.values dialect .soft := by
  induction sources with
  | nil => rfl
  | cons source rest ih =>
    obtain ⟨aliasName, argument⟩ := source
    rw [sourcesValues, ih, List.map_cons]

/-- Several sort keys have the values of each. -/
theorem orderValues_eq (order : List OrderItem) :
    orderValues dialect order = order.flatMap fun item => item.field.values dialect .soft := by
  induction order with
  | nil => rfl
  | cons item rest ih =>
    obtain ⟨field, direction⟩ := item
    rw [orderValues, ih, List.flatMap_cons]

/-- Several set fields have the values of each. -/
theorem assignmentsValues_eq (assignments : List Assignment) :
    assignmentsValues dialect assignments =
      assignments.flatMap fun assignment => assignment.value.values dialect .param := by
  induction assignments with
  | nil => rfl
  | cons assignment rest ih =>
    obtain ⟨field, value⟩ := assignment
    rw [assignmentsValues, ih, List.flatMap_cons]

/-- An expression has the values of its arguments, each as the tag asks. -/
theorem Expression.values_eq (e : Expression) :
    e.values dialect = (Template.tags (Template.tokenize (e.template.getD ""))).flatMap fun tag =>
      ((e.argument? tag.1).map (·.values dialect tag.2)).getD [] := by
  obtain ⟨template, operands, named, wrapped⟩ := e
  rw [Expression.values]
  congr 1
  funext tag
  obtain ⟨_ | _, style⟩ := tag <;>
    simp [TagTarget.values, Expression.argument?, argumentsValues_eq, namedValues_eq,
      Option.map_map, List.find?_map, Function.comp_def]

/-- An expression without arguments has no values. -/
theorem Expression.values_of_none {e : Expression} (h : ∀ target, e.argument? target = none) :
    e.values dialect = [] := by
  rw [values_eq, List.flatMap_eq_nil_iff]
  intro tag _
  rw [h]
  rfl

/-- Unnamed tags have the values of the arguments at their positions. -/
theorem placed_values (next : Nat) (styles : List TagStyle) (operands : List Argument) :
    (Template.placed next styles).flatMap (fun tag =>
      ((Expression.argument? ⟨none, operands, [], false⟩ tag.1).map
        (·.values dialect tag.2)).getD []) =
      (List.zipWith (fun style argument => argument.values dialect style) styles
        (operands.drop next)).flatten := by
  induction styles generalizing next with
  | nil => simp [Template.placed]
  | cons style rest ih =>
    rw [Template.placed, List.flatMap_cons, ih]
    cases hfound : operands[next]? with
    | none =>
      have hlength : operands.length ≤ next := List.getElem?_eq_none_iff.1 hfound
      simp [Expression.argument?, hfound, List.drop_of_length_le hlength,
        List.drop_of_length_le (hlength.trans (Nat.le_succ next))]
    | some argument =>
      obtain ⟨hnext, rfl⟩ := List.getElem?_eq_some_iff.1 hfound
      rw [List.drop_eq_getElem_cons hnext, List.zipWith_cons_cons, List.flatten_cons,
        Expression.argument?, hfound]
      rfl

/-- An expression with unnamed tags has the values of its operands, each as its tag asks. -/
theorem Expression.values_of_placed {template : String} {styles : List TagStyle}
    (htags : Template.tags (Template.tokenize template) = Template.placed 0 styles)
    (operands : List Argument) (wrapped : Bool) :
    Expression.values dialect ⟨some template, operands, [], wrapped⟩ =
      (List.zipWith (fun style argument => argument.values dialect style) styles
        operands).flatten := by
  have htemplate : (some template).getD "" = template := rfl
  rw [values_eq, htemplate, htags]
  exact placed_values 0 styles operands

/-! ### Values of clauses -/

/-- The values of parts of an item: those of the arguments among them. -/
def partsValues (dialect : Dialect) : List ItemPart → List Value
  | [] => []
  | .words _ :: rest => partsValues dialect rest
  | .operand style argument :: rest => argument.values dialect style ++ partsValues dialect rest

/-- Parts behind others have their values behind them. -/
theorem partsValues_append (parts rest : List ItemPart) :
    partsValues dialect (parts ++ rest) =
      partsValues dialect parts ++ partsValues dialect rest := by
  induction parts with
  | nil => rfl
  | cons part parts ih =>
    cases part with
    | words text => exact ih
    | operand style argument =>
      rw [List.cons_append, partsValues, partsValues, ih, List.append_assoc]

/-- Joined parts have the values of the items. -/
theorem partsValues_joinedParts (separator : String) (items : List (List ItemPart)) :
    partsValues dialect (joinedParts separator items) = items.flatMap (partsValues dialect) := by
  induction items with
  | nil => rfl
  | cons item rest ih =>
    cases rest with
    | nil => simp [joinedParts]
    | cons next rest =>
      rw [joinedParts, partsValues_append, partsValues, ih, ← List.flatMap_cons]

/-- The styles of the arguments among parts. -/
def partsStyles : List ItemPart → List TagStyle
  | [] => []
  | .words _ :: rest => partsStyles rest
  | .operand style _ :: rest => style :: partsStyles rest

/-- The template of parts has a tag for each argument among them. -/
theorem hasUnnamed_partsTemplate {parts : List ItemPart}
    (hplain : ∀ part ∈ parts, part.isPlain = true) :
    Template.HasUnnamed (partsTemplate parts).toList (partsStyles parts) := by
  induction parts with
  | nil => exact .plain rfl
  | cons part rest ih =>
    have hrest := ih fun later hlater => hplain later (List.mem_cons_of_mem _ hlater)
    rw [partsTemplate, String.toList_append]
    cases part with
    | words text => exact (Template.HasUnnamed.plain (hplain _ List.mem_cons_self)).append hrest
    | operand style argument =>
      have htag : Template.HasUnnamed (style.enclose []) [style] := by
        intro next rest
        rw [Template.lexemes_enclose, Template.tags_segments_unnamed]
        rfl
      rw [ItemPart.template, String.toList_ofList]
      exact htag.append hrest

/-- The expression of parts has their values. -/
theorem Expression.values_ofParts {parts : List ItemPart}
    (hplain : ∀ part ∈ parts, part.isPlain = true) :
    (ofParts parts).values dialect = partsValues dialect parts := by
  rw [ofParts, ofTemplate, values_of_placed (hasUnnamed_partsTemplate hplain).tags_tokenize]
  clear hplain
  induction parts with
  | nil => rfl
  | cons part rest ih =>
    cases part with
    | words text => exact ih
    | operand style argument => exact congrArg (argument.values dialect style ++ ·) ih

/-! ### Values of predicates -/

/-- A null test has the values of its field. -/
theorem nullTest_values {field : Argument} {operator : Operator} {e : Expression}
    (h : nullTest field operator = .ok e) : e.values dialect = field.values dialect .soft := by
  have htags (words : String) (hplain : words.toList.all Template.isPlain = true) :
      Expression.values dialect (.ofTemplate ("\x7b\x7b\x7d\x7d" ++ words) [field]) =
        field.values dialect .soft := by
    have hunnamed := Template.HasUnnamed.doubleBraces.append (.plain hplain)
    rw [← String.toList_append] at hunnamed
    rw [Expression.ofTemplate, Expression.values_of_placed hunnamed.tags_tokenize]
    simp
  unfold nullTest at h
  split at h
  · cases h
  · split at h
    · obtain rfl := Except.ok.inj h
      exact htags " is not null" (by decide)
    · obtain rfl := Except.ok.inj h
      exact htags " is null" (by decide)

/-- What is no list is no empty list. -/
theorem Argument.isEmptyList_of_isList {argument : Argument} (h : argument.isList = false) :
    argument.isEmptyList = false := by
  match argument with
  | .literal value => cases value <;> simp_all [isList, isEmptyList]
  | .expression e => rfl
  | .statement s => rfl
  | .list items => cases h

/-- Null is no list. -/
theorem Argument.isList_of_isNull {argument : Argument} (h : argument.isNull = true) :
    argument.isList = false := by
  unfold isNull at h
  split at h
  · rfl
  · cases h

/-- Membership in the list of a single value has the value. -/
theorem comparedValue_values (operator : Operator) (value : Argument) :
    (comparedValue operator value).values dialect .param = value.values dialect .param := by
  have hsingle (scalar : Value) : (Argument.list [.literal scalar]).values dialect .param =
      (Argument.literal scalar).values dialect .param := by
    simp [Argument.values, argumentsValues]
  unfold comparedValue
  split
  · exact hsingle _
  · exact hsingle _
  · rfl

/-- A comparison has the values of its predicate. -/
theorem comparisonExpression_values {field value : Argument} {operator : Option Operator}
    {e : Expression} (h : comparisonExpression dialect field operator value = .ok e) :
    e.values dialect = (Predicate.comparison field operator value).values dialect := by
  have hoperands {template : String} (second : Argument)
      (htags : Template.tags (Template.tokenize template) = Template.placed 0 [.soft, .param]) :
      Expression.values dialect (.ofTemplate template [field, second]) =
        field.values dialect .soft ++ second.values dialect .param := by
    rw [Expression.ofTemplate, Expression.values_of_placed htags]
    simp
  have hnone (template : String) : Expression.values dialect (.ofTemplate template) = [] :=
    Expression.values_of_none fun target => by cases target <;> rfl
  rw [Predicate.values]
  unfold comparisonExpression at h
  split at h
  · rename_i hnull
    have hfilled := Argument.isEmptyList_of_isList (Argument.isList_of_isNull hnull)
    rw [nullTest_values h, hfilled, hnull]
    rfl
  · rename_i hnull
    rw [if_neg hnull]
    split at h
    · split at h
      · obtain rfl := Except.ok.inj h
        unfold membership
        split
        · exact hnone _
        · split
          · exact hoperands value (tags_comparisonTemplate .notIn .generic)
          · exact hoperands value (tags_comparisonTemplate .isIn .generic)
      · cases h
    · rename_i hlist
      have hfilled := Argument.isEmptyList_of_isList (Bool.not_eq_true _ ▸ hlist)
      obtain rfl := Except.ok.inj h
      rw [hoperands _ (tags_comparisonTemplate _ dialect), comparedValue_values, hfilled]
      rfl

/-- Parts joined with a junction have the values of all. -/
theorem joinParts_values (junction : Junction) (parts : List Expression) :
    ((joinParts junction parts).map (Expression.values dialect)).getD [] =
      parts.flatMap (Expression.values dialect) := by
  have hbrackets (items : List Expression) :
      (List.zipWith (fun style argument => argument.values dialect style)
        (List.replicate items.length [TagStyle.param]).flatten
        (items.map Argument.expression)).flatten = items.flatMap (Expression.values dialect) := by
    induction items with
    | nil => rfl
    | cons item rest ih => exact congrArg (item.values dialect ++ ·) ih
  match parts with
  | [] => rfl
  | [part] => exact (List.append_nil _).symm
  | part :: next :: rest =>
    have hjunction : (" " ++ junction.sql ++ " ").toList.all Template.isPlain = true := by
      cases junction <;> decide
    have hunnamed := Template.HasUnnamed.brackets.joined hjunction (part :: next :: rest).length
    rw [← List.map_const'] at hunnamed
    exact (Expression.values_of_placed hunnamed.tags_tokenize
      ((part :: next :: rest).map .expression) true).trans (hbrackets (part :: next :: rest))

mutual

/-- The expression of a predicate has the values of the predicate. -/
theorem Predicate.toExpression_values {predicate : Predicate} {part : Option Expression}
    (h : predicate.toExpression dialect = .ok part) :
    (part.map (Expression.values dialect)).getD [] = predicate.values dialect := by
  match predicate with
  | .comparison field operator value =>
    rw [Predicate.toExpression] at h
    split at h
    · rename_i e he
      obtain rfl := Except.ok.inj h
      exact comparisonExpression_values he
    · cases h
  | .fragment fragment =>
    rw [Predicate.toExpression] at h
    obtain rfl := Except.ok.inj h
    exact (Expression.values_of_placed Template.HasUnnamed.brackets.tags_tokenize [fragment]
      false).trans (List.append_nil _)
  | .group junction predicates =>
    rw [Predicate.toExpression] at h
    split at h
    · rename_i parts hparts
      obtain rfl := Except.ok.inj h
      rw [joinParts_values, Predicate.values, predicateExpressions_values hparts]
    · cases h

/-- The expressions of predicates have the values of these, in order. -/
theorem predicateExpressions_values {predicates : List Predicate} {parts : List Expression}
    (h : predicateExpressions dialect predicates = .ok parts) :
    parts.flatMap (Expression.values dialect) = predicatesValues dialect predicates := by
  match predicates with
  | [] =>
    rw [predicateExpressions] at h
    obtain rfl := Except.ok.inj h
    rfl
  | predicate :: rest =>
    rw [predicateExpressions] at h
    split at h
    · cases h
    · rename_i part hpart
      split at h
      · cases h
      · rename_i following hfollowing
        obtain rfl := Except.ok.inj h
        rw [predicatesValues, ← Predicate.toExpression_values hpart,
          ← predicateExpressions_values hfollowing, List.flatMap_append]
        cases part <;> simp

end

/-! ### Values of the clauses of a statement -/

/-- A name has no values. -/
theorem Argument.values_text (name : String) (style : TagStyle) (h : style ≠ .param) :
    (Argument.text name).values dialect style = [] := by
  cases style with
  | param => exact absurd rfl h
  | identifier => rfl
  | soft => rfl

/-- An alias has no values. -/
theorem aliasParts_values (separator : String) (aliasName : Option String) :
    partsValues dialect (aliasParts separator aliasName) = [] := by
  cases aliasName <;> rfl

/-- The parts of a source have its values. -/
theorem Source.parts_values (separator : String) (source : Source) :
    partsValues dialect (source.parts separator) = source.source.values dialect .soft := by
  rw [Source.parts, partsValues, aliasParts_values, List.append_nil]

/-- The parts of sources have the values of these. -/
theorem sourcesParts_values (separator : String) (sources : List Source) :
    (sources.map (Source.parts separator)).flatMap (partsValues dialect) =
      (sourcesValues dialect sources).flatten := by
  rw [sourcesValues_eq, List.flatMap_map, List.flatMap_def]
  simp only [Source.parts_values]

/-- The parts of joins have the values of these. -/
theorem joinsParts_values (joins : List Join) :
    (joins.map Join.parts).flatMap (partsValues dialect) = joinsValues dialect joins := by
  induction joins with
  | nil => rfl
  | cons join rest ih =>
    have hjoin : partsValues dialect join.parts = partsValues dialect join.condition.parts := by
      rw [Join.parts, partsValues, partsValues, partsValues_append, aliasParts_values]
      rfl
    rw [List.map_cons, List.flatMap_cons, ih, hjoin]
    obtain ⟨kind, table, aliasName, _ | e⟩ := join
    · rfl
    · exact congrArg (· ++ joinsValues dialect rest) (List.append_nil (e.values dialect))

/-- The parts of sort keys have their values. -/
theorem OrderItem.parts_values (item : OrderItem) :
    partsValues dialect item.parts = item.field.values dialect .soft := by
  obtain ⟨field, _ | _⟩ := item <;> exact List.append_nil _

/-- The parts of an assignment have the values that the field is set to. -/
theorem Assignment.parts_values (assignment : Assignment) :
    partsValues dialect assignment.parts = assignment.value.values dialect .param :=
  List.append_nil _

/-- The items of predicates have their values. -/
theorem predicateItems_values {predicates : List Predicate} {found : List (List ItemPart)}
    (h : predicateItems dialect predicates = .ok found) :
    found.flatMap (partsValues dialect) = predicatesValues dialect predicates := by
  rw [predicateItems] at h
  cases hmade : predicateExpressions dialect predicates with
  | error error =>
    rw [hmade] at h
    cases h
  | ok parts =>
    rw [hmade] at h
    obtain rfl := Except.ok.inj h
    rw [← predicateExpressions_values hmade, List.flatMap_map]
    congr 1
    funext e
    exact List.append_nil _

namespace ListClause

/-- The items of a clause have the values of what the statement holds for it. -/
theorem items_values {part : ListClause} {s : Statement} {found : List (List ItemPart)}
    (h : part.items s dialect = .ok found) :
    found.flatMap (partsValues dialect) = s.clauseValues dialect part.clause := by
  have hassigned {item : Assignment → List ItemPart} (h : s.assignedItems item = .ok found) :
      found.flatMap (partsValues dialect) =
        s.assignments.flatMap fun assignment => partsValues dialect (item assignment) := by
    rw [Statement.assignedItems] at h
    split at h
    · cases h
    · obtain rfl := Except.ok.inj h
      rw [List.flatMap_map]
  cases s
  cases part with
  | fields =>
    obtain rfl := Except.ok.inj h
    exact sourcesParts_values " as " _
  | tables =>
    obtain rfl := Except.ok.inj h
    exact sourcesParts_values " " _
  | joins =>
    obtain rfl := Except.ok.inj h
    exact joinsParts_values _
  | wheres => exact predicateItems_values h
  | groups =>
    obtain rfl := Except.ok.inj h
    simp [ListClause.clause, Statement.clauseValues, argumentsValues_eq, List.flatMap_map,
      operandItem, partsValues]
  | havings => exact predicateItems_values h
  | order =>
    obtain rfl := Except.ok.inj h
    simp [ListClause.clause, Statement.clauseValues, orderValues_eq, List.flatMap_map,
      OrderItem.parts_values]
  | assignments =>
    rw [hassigned h]
    simp [ListClause.clause, Statement.clauseValues, assignmentsValues_eq, Assignment.parts_values]
  | setFields =>
    rw [hassigned h]
    simp [ListClause.clause, Statement.clauseValues, operandItem, partsValues,
      Argument.values_text]
  | setValues =>
    rw [hassigned h]
    simp [ListClause.clause, Statement.clauseValues, assignmentsValues_eq, operandItem, partsValues]

/-- The expression of a clause has the values of what the statement holds for it. -/
theorem clause_values (part : ListClause) {s : Statement} {e : Expression}
    (h : s.clause dialect part.clause = .ok e) :
    e.values dialect = s.clauseValues dialect part.clause := by
  rw [clause_eq] at h
  cases hfound : part.items s dialect with
  | error error =>
    rw [hfound] at h
    cases h
  | ok found =>
    rw [hfound] at h
    obtain rfl := Except.ok.inj h
    rw [Expression.values_ofParts (isPlain_parts hfound), ← items_values hfound, parts]
    split
    · rename_i hempty
      rw [List.isEmpty_iff.1 hempty]
      rfl
    · exact partsValues_joinedParts _ found

end ListClause

/-- The row limit names its two numbers in the order of the dialect. -/
theorem tags_limitTemplate (dialect : Dialect) :
    Template.tags (Template.tokenize (limitTemplate dialect)) =
      dialect.inPlaces (.name "count", .param) (.name "skip", .param) := by
  cases dialect <;> decide +kernel

/-- The row limit has its two numbers as values. -/
theorem limitClause_values (dialect : Dialect) (limit : RowLimit) :
    (limitClause dialect limit).values dialect =
      dialect.inPlaces limit.countValue limit.skipValue := by
  have htemplate : (limitClause dialect limit).template.getD "" = limitTemplate dialect := rfl
  rw [Expression.values_eq, htemplate, tags_limitTemplate]
  unfold Dialect.inPlaces
  split <;> rfl

/-- The expression of a clause has the values of the clause. -/
theorem Statement.clause_values {s : Statement} {part : Clause} {e : Expression}
    (h : s.clause dialect part = .ok e) : e.values dialect = s.clauseValues dialect part := by
  have hnone (template : String) : Expression.values dialect (.ofTemplate template) = [] :=
    Expression.values_of_none fun target => by cases target <;> rfl
  cases part with
  | options =>
    obtain rfl := Except.ok.inj h
    cases s
    dsimp only
    split <;> exact hnone _
  | tableNoAlias =>
    cases s with
    | mk _ _ _ _ tables _ _ _ _ _ _ _ =>
      cases tables with
      | nil => cases h
      | cons table rest =>
        obtain ⟨aliasName, source⟩ := table
        obtain rfl := Except.ok.inj h
        have hunnamed : Template.HasUnnamed "\x7b\x7b\x7d\x7d".toList [.soft] := .doubleBraces
        exact (Expression.values_of_placed hunnamed.tags_tokenize [source] false).trans
          (List.append_nil _)
  | limit =>
    obtain rfl := Except.ok.inj h
    cases s with
    | mk _ _ _ _ _ _ _ _ _ _ limit _ =>
      cases limit with
      | none => exact hnone ""
      | some limit => exact limitClause_values dialect limit
  | fields => exact ListClause.clause_values .fields h
  | tables => exact ListClause.clause_values .tables h
  | joins => exact ListClause.clause_values .joins h
  | wheres => exact ListClause.clause_values .wheres h
  | groups => exact ListClause.clause_values .groups h
  | havings => exact ListClause.clause_values .havings h
  | order => exact ListClause.clause_values .order h
  | assignments => exact ListClause.clause_values .assignments h
  | setFields => exact ListClause.clause_values .setFields h
  | setValues => exact ListClause.clause_values .setValues h

end Lists

end ScopeQuery
