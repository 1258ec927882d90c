import ScopeQuery.Proofs.ItemParts
import ScopeQuery.Proofs.RegroupedPredicates

/-!
# Items of clauses

A clause is one template with the operands of all its items in one list, so an operand is told
by its position alone. Rendering such a clause renders its items one after another, each from
its own source, alias, columns or value, with the separator of the clause between them.
-/

namespace ScopeQuery

/-! ### Items of statements -/

/-- A name behind a separator, if there is one. -/
def aliasParts (separator : String) : Option String → List ItemPart
  | some aliasName => [.words separator, .operand .identifier (.text aliasName)]
  | none => []

/-- The alias of a source, unless it is the name that the source has anyway. -/
def Source.otherName? (source : Source) : Option String :=
  if ClauseItem.sourceName? source.source = source.aliasName then none else source.aliasName

/-- The source and its alias. -/
def Source.parts (separator : String) (source : Source) : List ItemPart :=
  .operand .soft source.source :: aliasParts separator source.otherName?

/-- The columns or the expression that rows are joined on. -/
def JoinCondition.parts : JoinCondition → List ItemPart
  | .columns left right =>
    [.words " on ", .operand .soft (.text left), .words " = ", .operand .soft (.text right)]
  | .expression e => [.words " on ", .operand .param (.expression e)]

/-- The table, its alias and the condition of a join. -/
def Join.parts (join : Join) : List ItemPart :=
  .words (" " ++ join.kind.sql ++ " join ") :: .operand .soft (.text join.table) ::
    (aliasParts " " join.aliasName ++ join.condition.parts)

/-- The field and the direction of a sort key. -/
def OrderItem.parts (item : OrderItem) : List ItemPart :=
  match item.direction with
  | .ascending => [.operand .soft item.field]
  | .descending => [.operand .soft item.field, .words " desc"]

/-- The field and the value of an assignment. -/
def Assignment.parts (assignment : Assignment) : List ItemPart :=
  [.operand .soft (.text assignment.field), .words " = ", .operand .param assignment.value]

/-- An item that is one argument in a style. -/
def operandItem (style : TagStyle) (argument : Argument) : List ItemPart :=
  [.operand style argument]

/-- The items of a clause of predicates: the fragments that these become. -/
def predicateItems (dialect : Dialect) (predicates : List Predicate) :
    Except QueryError (List (List ItemPart)) :=
  (predicateExpressions dialect predicates).map
    (List.map fun e => operandItem .param (.expression e))

/-- The items of a clause that needs at least one set field. -/
def Statement.assignedItems (s : Statement) (item : Assignment → List ItemPart) :
    Except QueryError (List (List ItemPart)) :=
  if s.assignments.isEmpty then .error (.unfitValue (.nothingToSet s.mode))
  else .ok (s.assignments.map item)

/-- A clause that is a list of items. -/
inductive ListClause where
  /-- The selected fields. -/
  | fields
  /-- The tables with their aliases. -/
  | tables
  /-- The joined tables. -/
  | joins
  /-- The predicates on rows. -/
  | wheres
  /-- The grouping. -/
  | groups
  /-- The predicates on groups. -/
  | havings
  /-- The sorting. -/
  | order
  /-- Fields with their values. -/
  | assignments
  /-- The set fields alone. -/
  | setFields
  /-- The set values alone. -/
  | setValues
deriving DecidableEq

namespace ListClause

/-- The clause as a part of a statement. -/
def clause : ListClause → Clause
  | .fields => .fields
  | .tables => .tables
  | .joins => .joins
  | .wheres => .wheres
  | .groups => .groups
  | .havings => .havings
  | .order => .order
  | .assignments => .assignments
  | .setFields => .setFields
  | .setValues => .setValues

/-- The words in front of the items. -/
def lead : ListClause → String
  | .tables => " from "
  | .wheres => " where "
  | .groups => " group by "
  | .havings => " having "
  | .order => " order by "
  | .fields | .joins | .assignments | .setFields | .setValues => ""

/-- The words between neighbouring items. -/
def separator : ListClause → String
  | .joins => ""
  | .wheres | .havings => " and "
  | .fields | .tables | .groups | .order | .assignments | .setFields | .setValues => ", "

/-- The text of the clause without items: all fields, or the sorting that one dialect needs for
a limit. -/
def whenEmpty (s : Statement) (dialect : Dialect) : ListClause → String
  | .fields => "*"
  | .order =>
    if dialect = .mssql ∧ s.limit.isSome then " order by (select null)" else ""
  | _ => ""

/-- The items of the clause, each from what the statement holds for it. -/
def items (s : Statement) (dialect : Dialect) :
    ListClause → Except QueryError (List (List ItemPart))
  | .fields => .ok (s.fields.map (Source.parts " as "))
  | .tables => .ok (s.tables.map (Source.parts " "))
  | .joins => .ok (s.joins.map Join.parts)
  | .wheres => predicateItems dialect s.wheres
  | .groups => .ok (s.groups.map (operandItem .soft))
  | .havings => predicateItems dialect s.havings
  | .order => .ok (s.order.map OrderItem.parts)
  | .assignments => s.assignedItems Assignment.parts
  | .setFields => s.assignedItems fun assignment => operandItem .soft (.text assignment.field)
  | .setValues => s.assignedItems fun assignment => operandItem .param assignment.value

/-- The text of the clause: the words in front and the items, rendered one after another with
the separator between them. -/
def renderInto (part : ListClause) (s : Statement) (session : Session) : Rendering :=
  match part.items s session.dialect with
  | .error error => .error error
  | .ok items =>
    if items.isEmpty then .ok (part.whenEmpty s session.dialect, session)
    else (renderEach items session).map fun (texts, after) =>
      (part.lead ++ Text.joined part.separator texts, after)

end ListClause

/-- An item of predicates is a fragment that one of them becomes. -/
theorem mem_predicateItems {dialect : Dialect} {predicates : List Predicate}
    {found : List (List ItemPart)} {item : List ItemPart}
    (h : predicateItems dialect predicates = .ok found) (hitem : item ∈ found) :
    ∃ parts e, predicateExpressions dialect predicates = .ok parts ∧ e ∈ parts ∧
      item = operandItem .param (.expression e) := by
  rw [predicateItems] at h
  cases hmade : predicateExpressions dialect predicates with
  | error error =>
    rw [hmade] at h
    cases h
  | ok parts =>
    rw [hmade] at h
    cases h
    obtain ⟨e, he, rfl⟩ := List.mem_map.1 hitem
    exact ⟨parts, e, rfl, he, rfl⟩

/-- An item of set fields is that of an assignment. -/
theorem Statement.mem_assignedItems {s : Statement} {element : Assignment → List ItemPart}
    {found : List (List ItemPart)} {item : List ItemPart}
    (h : s.assignedItems element = .ok found) (hitem : item ∈ found) :
    ∃ assignment ∈ s.assignments, item = element assignment := by
  rw [assignedItems] at h
  split at h
  · cases h
  · cases h
    obtain ⟨assignment, hassignment, rfl⟩ := List.mem_map.1 hitem
    exact ⟨assignment, hassignment, rfl⟩

/-! ### Templates of items -/

/-- A clause of items is the expression of its words and of the joined parts. -/
theorem listClause_ofParts (lead separator : String) (items : List (List ItemPart)) :
    listClause lead separator (items.map .ofParts) =
      .ofParts (.words lead :: joinedParts separator items) := by
  have hoperands : partsOperands (.words lead :: joinedParts separator items) =
      partsOperands (joinedParts separator items) := rfl
  rw [listClause, Expression.ofParts, partsTemplate, partsTemplate_joinedParts, hoperands,
    partsOperands_joinedParts, List.map_map, List.flatMap_map]
  rfl

namespace ClauseItem

/-- An item has parts when its template and its operands are theirs. -/
theorem eq_ofParts {item : ClauseItem} {parts : List ItemPart}
    (htemplate : item.template = partsTemplate parts)
    (hoperands : item.operands = partsOperands parts) : item = .ofParts parts := by
  obtain ⟨template, operands⟩ := item
  rw [ClauseItem.ofParts, ← htemplate, ← hoperands]

/-- The item of a source has the parts of the source. -/
theorem ofSource_eq (separator : String) (source : Source) :
    ofSource separator source = .ofParts (source.parts separator) := by
  obtain ⟨_ | aliasName, argument⟩ := source
  · have hnone : (Source.mk none argument).otherName? = none := by
      simp [Source.otherName?]
    rw [Source.parts, hnone]
    rfl
  · rw [ofSource, Source.parts, Source.otherName?]
    dsimp only
    split
    · rfl
    · refine eq_ofParts ?_ rfl
      simp [aliasParts, partsTemplate, ItemPart.template, TagStyle.enclose, String.ext_iff]

/-- The item of a join has the parts of the join. -/
theorem ofJoin_eq (join : Join) : ofJoin join = .ofParts join.parts := by
  obtain ⟨kind, table, _ | aliasName, _ | _⟩ := join
  all_goals
    refine eq_ofParts ?_ rfl
    simp [ofJoin, ofJoinCondition, Join.parts, JoinCondition.parts, aliasParts, partsTemplate,
      ItemPart.template, TagStyle.enclose, String.ext_iff]

/-- The item of a sort key has the parts of the key. -/
theorem ofOrder_eq (item : OrderItem) : ofOrder item = .ofParts item.parts := by
  obtain ⟨field, _ | _⟩ := item <;> rfl

/-- The item of an assignment has the parts of the assignment. -/
theorem ofAssignment_eq (assignment : Assignment) :
    ofAssignment assignment = .ofParts assignment.parts := rfl

/-- An item in double braces is one argument. -/
theorem soft_eq (argument : Argument) : soft argument = .ofParts (operandItem .soft argument) := rfl

/-- A predicate in brackets is one argument. -/
theorem ofPredicate_eq (part : Expression) :
    ofPredicate part = .ofParts (operandItem .param (.expression part)) := rfl

end ClauseItem

/-! ### Words of items -/

/-- The words of an alias stand for themselves when its separator does. -/
theorem isPlain_aliasParts (separator : String)
    (h : separator.toList.all Template.isPlain = true) (aliasName : Option String) :
    ∀ part ∈ aliasParts separator aliasName, part.isPlain = true := by
  cases aliasName with
  | none => simp [aliasParts]
  | some aliasName => simpa [aliasParts, ItemPart.isPlain] using h

/-- The words of a join stand for themselves. -/
theorem isPlain_join (join : Join) : ∀ part ∈ join.parts, part.isPlain = true := by
  have hkind : (" " ++ join.kind.sql ++ " join ").toList.all Template.isPlain = true := by
    cases join.kind <;> decide
  have halias := isPlain_aliasParts " " (by decide) join.aliasName
  have hcondition : ∀ part ∈ join.condition.parts, part.isPlain = true := by
    cases join.condition with
    | columns left right =>
      simp only [JoinCondition.parts, ItemPart.isPlain, List.forall_mem_cons]
      decide
    | expression e =>
      simp only [JoinCondition.parts, ItemPart.isPlain, List.forall_mem_cons]
      decide
  intro part hpart
  simp only [Join.parts, List.mem_cons, List.mem_append] at hpart
  obtain rfl | rfl | hpart | hpart := hpart
  · exact hkind
  · rfl
  · exact halias part hpart
  · exact hcondition part hpart

/-! ### Rendering clauses -/

namespace ListClause

/-- The parts of a clause with these items. -/
def parts (part : ListClause) (s : Statement) (dialect : Dialect) (items : List (List ItemPart)) :
    List ItemPart :=
  if items.isEmpty then [.words (part.whenEmpty s dialect)]
  else .words part.lead :: joinedParts part.separator items

section Optional

variable {α : Type} {item : α → ClauseItem} {parts : α → List ItemPart}
  (hitem : ∀ x, item x = .ofParts (parts x))
include hitem

/-- A clause of items is the expression of their parts. -/
theorem listClause_eq (lead separator : String) (elements : List α) :
    listClause lead separator (elements.map item) =
      .ofParts (.words lead :: joinedParts separator (elements.map parts)) := by
  rw [← listClause_ofParts, List.map_map]
  congr 1
  exact List.map_congr_left fun x _ => hitem x

/-- A clause of items that is left out without any is the expression of their parts. -/
theorem optionalClause_eq (lead separator : String) (elements : List α) :
    optionalClause lead separator (elements.map item) =
      .ofParts (if (elements.map parts).isEmpty then [.words ""]
        else .words lead :: joinedParts separator (elements.map parts)) := by
  cases elements with
  | nil => rfl
  | cons first rest => exact listClause_eq hitem lead separator (first :: rest)

end Optional

/-- A clause is the expression of its parts. -/
theorem clause_eq (part : ListClause) (s : Statement) (dialect : Dialect) :
    s.clause dialect part.clause =
      (part.items s dialect).map fun items => .ofParts (part.parts s dialect items) := by
  have hpredicates (lead : String) (predicates : List Predicate) :
      Statement.predicateClause lead predicates dialect =
        (predicateItems dialect predicates).map fun items =>
          .ofParts (if items.isEmpty then [.words ""]
            else .words lead :: joinedParts " and " items) := by
    rw [Statement.predicateClause, predicateItems]
    cases predicateExpressions dialect predicates with
    | error error => rfl
    | ok found => exact congrArg Except.ok (optionalClause_eq ClauseItem.ofPredicate_eq _ _ found)
  have hassigned (item : Assignment → ClauseItem) (parts : Assignment → List ItemPart)
      (hitem : ∀ assignment, item assignment = .ofParts (parts assignment)) :
      s.assignmentClause item = (s.assignedItems parts).map fun items =>
        .ofParts (if items.isEmpty then [.words ""] else .words "" :: joinedParts ", " items) := by
    rw [Statement.assignmentClause, Statement.assignedItems]
    cases s.assignments with
    | nil => rfl
    | cons first rest => exact congrArg Except.ok (listClause_eq hitem "" ", " (first :: rest))
  cases part with
  | fields =>
    rw [ListClause.clause, Statement.clause, items, Except.map, parts]
    cases hfields : s.fields with
    | nil => rfl
    | cons first rest =>
      exact congrArg Except.ok
        (listClause_eq (ClauseItem.ofSource_eq " as ") "" ", " (first :: rest))
  | tables => exact congrArg Except.ok (optionalClause_eq (ClauseItem.ofSource_eq " ") _ _ _)
  | joins => exact congrArg Except.ok (optionalClause_eq ClauseItem.ofJoin_eq _ _ _)
  | wheres => exact hpredicates " where " s.wheres
  | groups => exact congrArg Except.ok (optionalClause_eq ClauseItem.soft_eq _ _ _)
  | havings => exact hpredicates " having " s.havings
  | order =>
    rw [ListClause.clause, Statement.clause, items, Except.map, parts, Statement.orderClause]
    cases horder : s.order with
    | nil =>
      by_cases hlimited : dialect = .mssql ∧ s.limit.isSome
      · rw [if_pos ⟨rfl, hlimited⟩, whenEmpty, if_pos hlimited]
        rfl
      · rw [if_neg fun h => hlimited h.2, whenEmpty, if_neg hlimited]
        rfl
    | cons first rest =>
      exact congrArg Except.ok (optionalClause_eq ClauseItem.ofOrder_eq _ _ (first :: rest))
  | assignments => exact hassigned _ _ ClauseItem.ofAssignment_eq
  | setFields => exact hassigned _ _ fun _ => rfl
  | setValues => exact hassigned _ _ fun _ => rfl

/-- The words in front of the items stand for themselves. -/
theorem isPlain_lead (part : ListClause) : part.lead.toList.all Template.isPlain = true := by
  cases part <;> decide

/-- The words between items stand for themselves. -/
theorem isPlain_separator (part : ListClause) :
    part.separator.toList.all Template.isPlain = true := by
  cases part <;> decide

/-- The text of a clause without items stands for itself. -/
theorem isPlain_whenEmpty (part : ListClause) (s : Statement) (dialect : Dialect) :
    (part.whenEmpty s dialect).toList.all Template.isPlain = true := by
  unfold whenEmpty
  split
  · decide
  · split <;> decide
  · rfl

/-- The words of every item stand for themselves. -/
theorem isPlain_items {part : ListClause} {s : Statement} {dialect : Dialect}
    {found : List (List ItemPart)} (h : part.items s dialect = .ok found) :
    ∀ item ∈ found, ∀ part ∈ item, part.isPlain = true := by
  have hoperand (style : TagStyle) (argument : Argument) :
      ∀ part ∈ operandItem style argument, part.isPlain = true := by
    simp [operandItem, ItemPart.isPlain]
  have hsource (separator : String) (hseparator : separator.toList.all Template.isPlain = true)
      (source : Source) : ∀ part ∈ source.parts separator, part.isPlain = true :=
    List.forall_mem_cons.2 ⟨rfl, isPlain_aliasParts separator hseparator _⟩
  cases part with
  | fields =>
    cases h
    exact List.forall_mem_map.2 fun source _ => hsource " as " (by decide) source
  | tables =>
    cases h
    exact List.forall_mem_map.2 fun source _ => hsource " " (by decide) source
  | joins =>
    cases h
    exact List.forall_mem_map.2 fun join _ => isPlain_join join
  | wheres | havings =>
    intro item hitem
    obtain ⟨made, e, -, -, rfl⟩ := mem_predicateItems h hitem
    exact hoperand .param (.expression e)
  | groups =>
    cases h
    exact List.forall_mem_map.2 fun argument _ => hoperand .soft argument
  | order =>
    cases h
    refine List.forall_mem_map.2 fun item _ => ?_
    obtain ⟨field, _ | _⟩ := item
    · exact hoperand .soft field
    · exact List.forall_mem_cons.2 ⟨rfl, List.forall_mem_singleton.2 (by decide)⟩
  | assignments =>
    intro item hitem
    obtain ⟨assignment, -, rfl⟩ := Statement.mem_assignedItems h hitem
    have hvalue : ∀ part ∈ [ItemPart.words " = ", .operand .param assignment.value],
        part.isPlain = true :=
      List.forall_mem_cons.2 ⟨by decide, hoperand .param assignment.value⟩
    exact List.forall_mem_cons.2 ⟨rfl, hvalue⟩
  | setFields | setValues =>
    intro item hitem
    obtain ⟨assignment, -, rfl⟩ := Statement.mem_assignedItems h hitem
    exact hoperand _ _

/-- The words of a clause stand for themselves. -/
theorem isPlain_parts {part : ListClause} {s : Statement} {dialect : Dialect}
    {found : List (List ItemPart)} (h : part.items s dialect = .ok found) :
    ∀ piece ∈ part.parts s dialect found, piece.isPlain = true := by
  rw [parts]
  split
  · exact List.forall_mem_singleton.2 (isPlain_whenEmpty part s dialect)
  · have hjoined := isPlain_joinedParts part.isPlain_separator (isPlain_items h)
    exact List.forall_mem_cons.2 ⟨part.isPlain_lead, hjoined⟩

/-- Rendering a clause of a list renders its items one after another. -/
theorem clauseRendering_eq (part : ListClause) (s : Statement) (session : Session) :
    s.clauseRendering part.clause session = part.renderInto s session := by
  rw [Statement.clauseRendering, clause_eq, renderInto]
  cases hitems : part.items s session.dialect with
  | error error => rfl
  | ok found =>
    dsimp only [Except.map]
    rw [Expression.ofParts_renderInto (isPlain_parts hitems), parts]
    split
    · simp [renderParts, ItemPart.renderInto, Rendering.behind, Except.map]
    · rw [renderParts, ItemPart.renderInto]
      dsimp only
      rw [renderParts_joinedParts]
      cases renderEach found session <;> rfl

end ListClause

end ScopeQuery
