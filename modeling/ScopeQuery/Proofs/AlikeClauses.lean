import ScopeQuery.Proofs.AlikeStatements
import ScopeQuery.Proofs.StandingValues

/-!
# Clauses of alike statements

Each clause of two alike statements becomes alike expressions, or fails in both with errors
that differ at most in the values they show. Operands in soft tags are alike in the place of
any tag; the only operands that need their tag are the values of comparisons, of set fields
and of row limits, and the tags of these templates are known.
-/

namespace ScopeQuery

variable {R : Value → Value → Prop}

/-! ### Alike arguments -/

namespace Value.Alike

variable {v w : Value}

/-- Of two values that may stand for each other both are arrays or neither is. -/
theorem isList_eq (h : v.Alike R w) :
    (Argument.literal v).isList = (Argument.literal w).isList := by
  obtain rfl | ⟨-, hv, hw⟩ := h
  · rfl
  · cases v <;> cases w <;> simp_all [isArray, Argument.isList]

/-- Of two values that may stand for each other both are empty arrays or neither is. -/
theorem isEmptyList_eq (h : v.Alike R w) :
    (Argument.literal v).isEmptyList = (Argument.literal w).isEmptyList := by
  obtain rfl | ⟨-, hv, hw⟩ := h
  · rfl
  · cases v <;> cases w <;> simp_all [isArray, Argument.isEmptyList]

end Value.Alike

namespace Argument

/-- Arguments of which one may stand for the other in the place of any tag. -/
def Fixed (R : Value → Value → Prop) (argument other : Argument) : Prop :=
  ∀ style, argument.Alike R style other

/-- What is alike as a soft identifier is alike in the place of any tag. -/
theorem Alike.fixed {argument other : Argument} (h : argument.Alike R .soft other) :
    argument.Fixed R other := fun style =>
  match argument, other, h with
  | _, _, .literal v => .literal v
  | _, _, .expression h => .expression h
  | _, _, .statement h => .statement h
  | .list _, .list _, .list hlength h => .list hlength fun hpair => (h hpair).fixed style
termination_by sizeOf argument
decreasing_by
  have hitem := List.sizeOf_lt_of_mem (List.of_mem_zip hpair).1
  simp only [list.sizeOf_spec]
  omega

/-- A text is the same in the place of any tag. -/
theorem fixed_text (text : String) : (Argument.text text).Fixed R (.text text) :=
  fun _ => .literal _

mutual

/-- What is alike as a soft identifier is shown alike in error messages. -/
theorem Alike.describe_eq {argument other : Argument} (h : argument.Alike R .soft other) :
    argument.describe = other.describe := by
  match argument, other, h with
  | _, _, .literal v => rfl
  | .expression e, .expression f, .expression h => 
    obtain ⟨_, _⟩ := h
    rfl
  | _, _, .statement h => rfl
  | .list items, .list others, .list hlength h =>
    rw [describe, describe, Alike.describeAll_eq hlength h]

/-- Lists that are alike item by item are shown alike. -/
theorem Alike.describeAll_eq {items others : List Argument} (hlength : items.length = others.length)
    (h : ∀ {item other : Argument}, (item, other) ∈ items.zip others → item.Alike R .soft other) :
    describeAll items = describeAll others := by
  match items, others, hlength with
  | [], [], _ => rfl
  | item :: items, other :: others, hlength =>
    have hitem := (@h item other (by simp)).describe_eq
    rw [describeAll, describeAll, hitem,
      Alike.describeAll_eq (by simpa using hlength) fun hpair => h (by simp [hpair])]

end

/-- Of two alike arguments both are lists or neither is. -/
theorem Alike.isList_eq {style : TagStyle} {argument other : Argument}
    (h : argument.Alike R style other) : argument.isList = other.isList := by
  cases h with
  | value h => exact h.isList_eq
  | _ => rfl

/-- Of two alike arguments both are empty lists or neither is. -/
theorem Alike.isEmptyList_eq {style : TagStyle} {argument other : Argument}
    (h : argument.Alike R style other) : argument.isEmptyList = other.isEmptyList := by
  cases h with
  | value h => exact h.isEmptyList_eq
  | array h => cases h <;> rfl
  | @list _ items others hlength _ => cases items <;> cases others <;> simp_all [isEmptyList]
  | _ => rfl

/-- What is alike as a soft identifier has the same plain name, if any. -/
theorem Alike.sourceName?_eq {argument other : Argument} (h : argument.Alike R .soft other) :
    ClauseItem.sourceName? argument = ClauseItem.sourceName? other := by
  cases h <;> rfl

/-- Lists of one alike item. -/
theorem Alike.singleton {style : TagStyle} {argument other : Argument}
    (h : argument.Alike R style other) :
    (Argument.list [argument]).Alike R style (.list [other]) := by
  refine .list rfl fun {item found} hpair => ?_
  obtain ⟨rfl, rfl⟩ : item = argument ∧ found = other := by simpa using hpair
  exact h

/-- Arguments that are alike one by one, each in the place of a tag of its own style. -/
inductive AllAlike (R : Value → Value → Prop) :
    List TagStyle → List Argument → List Argument → Prop where
  /-- No arguments. -/
  | nil : AllAlike R [] [] []
  /-- A pair of arguments before the others. -/
  | cons {style : TagStyle} {styles : List TagStyle} {argument other : Argument}
      {items others : List Argument} (head : argument.Alike R style other)
      (tail : AllAlike R styles items others) :
      AllAlike R (style :: styles) (argument :: items) (other :: others)

namespace AllAlike

variable {styles : List TagStyle} {items others : List Argument}

/-- There are as many arguments on both sides. -/
theorem length_eq (h : AllAlike R styles items others) : items.length = others.length := by
  induction h with
  | nil => rfl
  | cons _ _ ih => exact congrArg (· + 1) ih

/-- The arguments of a position are alike in its style. -/
theorem get (h : AllAlike R styles items others) {i : Nat} {style : TagStyle}
    {argument other : Argument} (hstyle : styles[i]? = some style)
    (hitem : items[i]? = some argument) (hother : others[i]? = some other) :
    argument.Alike R style other := by
  induction h generalizing i with
  | nil => simp at hstyle
  | cons head tail ih =>
    cases i with
    | zero =>
      obtain rfl := Option.some.inj hstyle
      obtain rfl := Option.some.inj hitem
      obtain rfl := Option.some.inj hother
      exact head
    | succ i => exact ih hstyle hitem hother

/-- Alike arguments behind others. -/
theorem append {styles' : List TagStyle} {items' others' : List Argument}
    (h : AllAlike R styles items others) (h' : AllAlike R styles' items' others') :
    AllAlike R (styles ++ styles') (items ++ items') (others ++ others') := by
  induction h with
  | nil => exact h'
  | cons head _ ih => exact .cons head ih

end AllAlike

end Argument

/-! ### Alike expressions -/

namespace Expression

variable {items others : List Argument}

/-- Expressions with positional arguments are alike when the arguments are, each as the tag of
its position asks. -/
theorem alike_of_operands {template : Option String} {wrapped : Bool}
    (hlength : items.length = others.length)
    (h : ∀ text, template = some text → ∀ i style,
      (.position i, style) ∈ Template.tags (Template.tokenize text) → ∀ argument other,
        items[i]? = some argument → others[i]? = some other → argument.Alike R style other) :
    Expression.Alike R ⟨template, items, [], wrapped⟩ ⟨template, others, [], wrapped⟩ := by
  refine .intro (fun target => ?_)
    fun text htext target style htag argument other hitem hother => ?_
  · cases target with
    | position i =>
      have hbound : i < items.length ↔ i < others.length := by rw [hlength]
      by_cases hi : i < items.length
      · simp [argument?, hi, hbound.1 hi]
      · simp [argument?, hi, hbound.not.1 hi]
    | name name => rfl
  · cases target with
    | position i =>
      exact h text htext i style (Template.mem_tags.2 htag) argument other hitem hother
    | name name => simp [argument?] at hitem

/-- Arguments that are alike in the place of any tag make alike expressions. -/
theorem alike_of_fixed {template : Option String} {wrapped : Bool}
    (h : List.Forall₂ (Argument.Fixed R) items others) :
    Expression.Alike R ⟨template, items, [], wrapped⟩ ⟨template, others, [], wrapped⟩ := by
  have hpairs := (List.forall₂_iff_get.1 h).2
  refine alike_of_operands h.length_eq fun text _ i style _ argument other hitem hother => ?_
  obtain ⟨hi, rfl⟩ := List.getElem?_eq_some_iff.1 hitem
  obtain ⟨hi', rfl⟩ := List.getElem?_eq_some_iff.1 hother
  exact hpairs i hi hi' style

/-- Arguments that are alike in the styles of a template's tags make alike expressions. -/
theorem alike_of_placed {template : String} {styles : List TagStyle}
    (htags : Template.tags (Template.tokenize template) = Template.placed 0 styles)
    (h : Argument.AllAlike R styles items others) :
    Expression.Alike R (ofTemplate template items) (ofTemplate template others) := by
  refine alike_of_operands h.length_eq fun text htext i style htag argument other hitem hother => ?_
  obtain rfl := Option.some.inj htext
  rw [htags] at htag
  obtain ⟨j, hj, hstyle⟩ := Template.position_of_mem_placed htag
  obtain rfl : i = j := by simpa using hj
  exact h.get hstyle hitem hother

end Expression

/-! ### Alike outcomes -/

/-- Errors that differ at most in the value they show. -/
inductive QueryError.Alike (R : Value → Value → Prop) : QueryError → QueryError → Prop where
  /-- The same error. -/
  | same (error : QueryError) : Alike R error error
  /-- A list where there can be none, shown with its items. -/
  | listOperator {value other : Argument} (h : value.Alike R .param other) (operator : Operator) :
      Alike R (.unfitValue (.listOperator value.describe operator))
        (.unfitValue (.listOperator other.describe operator))

/-- Steps that both fail with alike errors or both succeed with related results. -/
def AlikeOutcomes (R : Value → Value → Prop) {α : Type} (A : α → α → Prop)
    (step other : Except QueryError α) : Prop :=
  (∃ error otherError, step = .error error ∧ other = .error otherError ∧
    error.Alike R otherError) ∨
  ∃ result otherResult, step = .ok result ∧ other = .ok otherResult ∧ A result otherResult

namespace AlikeOutcomes

variable {α : Type} {A : α → α → Prop}

/-- Both fail. -/
theorem error {error other : QueryError} (h : error.Alike R other) :
    AlikeOutcomes R A (.error error) (.error other) :=
  .inl ⟨error, other, rfl, rfl, h⟩

/-- Both succeed. -/
theorem ok {result other : α} (h : A result other) :
    AlikeOutcomes R A (.ok result) (.ok other) :=
  .inr ⟨result, other, rfl, rfl, h⟩

/-- To show something of alike outcomes, show it of two alike errors and of two related
results. -/
@[elab_as_elim]
theorem elim {motive : Except QueryError α → Except QueryError α → Prop}
    {step other : Except QueryError α} (h : AlikeOutcomes R A step other)
    (failed : ∀ error otherError, error.Alike R otherError →
      motive (.error error) (.error otherError))
    (succeeded : ∀ result otherResult, A result otherResult →
      motive (.ok result) (.ok otherResult)) : motive step other := by
  obtain ⟨error, otherError, rfl, rfl, herror⟩ | ⟨result, otherResult, rfl, rfl, hresult⟩ := h
  · exact failed error otherError herror
  · exact succeeded result otherResult hresult

end AlikeOutcomes

/-! ### Alike predicates -/

section Predicates

variable {field otherField value other : Argument}

/-- Null tests of alike operands. -/
theorem nullTest_alike (h : field.Alike R .soft otherField) (operator : Operator) :
    AlikeOutcomes R (Expression.Alike R) (nullTest field operator)
      (nullTest otherField operator) := by
  have hoperand : List.Forall₂ (Argument.Fixed R) [field] [otherField] := .cons h.fixed .nil
  unfold nullTest
  split
  · rw [h.describe_eq]
    exact .error (.same _)
  · split
    · exact .ok (Expression.alike_of_fixed hoperand)
    · exact .ok (Expression.alike_of_fixed hoperand)

/-- Both operands of a comparison are alike as its tags ask. -/
theorem operands_alike (hfield : field.Alike R .soft otherField)
    (hvalue : value.Alike R .param other) :
    Argument.AllAlike R [.soft, .param] [field, value] [otherField, other] :=
  .cons hfield (.cons hvalue .nil)

/-- Membership tests of alike operands. -/
theorem membership_alike (hfield : field.Alike R .soft otherField)
    (hvalue : value.Alike R .param other) (negated : Bool) :
    Expression.Alike R (membership field negated value) (membership otherField negated other) := by
  have hoperands := operands_alike hfield hvalue
  unfold membership
  rw [hvalue.isEmptyList_eq]
  split
  · exact Expression.alike_of_fixed .nil
  · split
    · exact Expression.alike_of_placed (tags_comparisonTemplate .notIn .generic) hoperands
    · exact Expression.alike_of_placed (tags_comparisonTemplate .isIn .generic) hoperands

/-- Second operands are still alike when single values have become lists. -/
theorem comparedValue_alike (h : value.Alike R .param other) (operator : Operator) :
    (comparedValue operator value).Alike R .param (comparedValue operator other) := by
  by_cases hmember : operator = .isIn ∨ operator = .notIn
  · cases h with
    | literal v => rcases hmember with rfl | rfl <;> exact (Argument.Alike.literal v).singleton
    | value h => rcases hmember with rfl | rfl <;> exact (Argument.Alike.value h).singleton
    | array h => rcases hmember with rfl | rfl <;> exact (Argument.Alike.array h).singleton
    | expression h => rcases hmember with rfl | rfl <;> exact .expression h
    | statement h => rcases hmember with rfl | rfl <;> exact .statement h
    | list hlength h => rcases hmember with rfl | rfl <;> exact .list hlength h
  · have hsame (argument : Argument) : comparedValue operator argument = argument := by
      cases operator <;> simp_all [comparedValue]
    rw [hsame, hsame]
    exact h

/-- Comparisons of alike operands, with null on both sides or on neither. -/
theorem comparisonExpression_alike (dialect : Dialect) (operator : Option Operator)
    (hfield : field.Alike R .soft otherField) (hvalue : value.Alike R .param other)
    (hnull : value.isNull = other.isNull) :
    AlikeOutcomes R (Expression.Alike R) (comparisonExpression dialect field operator value)
      (comparisonExpression dialect otherField operator other) := by
  unfold comparisonExpression
  rw [← hnull, ← hvalue.isList_eq]
  split
  · exact nullTest_alike hfield _
  · split
    · cases listNegated? operator with
      | ok negated => exact .ok (membership_alike hfield hvalue negated)
      | error operator => exact .error (.listOperator hvalue operator)
    · have hoperands := operands_alike hfield (comparedValue_alike hvalue (operator.getD .eq))
      exact .ok (Expression.alike_of_placed (tags_comparisonTemplate _ dialect) hoperands)

/-- Expressions as operands are alike in the place of any tag. -/
theorem forall₂_expression {parts others : List Expression}
    (h : List.Forall₂ (Expression.Alike R) parts others) :
    List.Forall₂ (Argument.Fixed R) (parts.map .expression) (others.map .expression) :=
  List.forall₂_map_left_iff.2 (List.forall₂_map_right_iff.2
    (h.imp fun _ _ hpart _ => .expression hpart))

/-- Alike parts joined with a junction. -/
theorem joinParts_alike (junction : Junction) {parts others : List Expression}
    (h : List.Forall₂ (Expression.Alike R) parts others) :
    Option.Rel (Expression.Alike R) (joinParts junction parts) (joinParts junction others) := by
  cases h with
  | nil => exact .none
  | @cons part other parts others hpart hparts =>
    cases hparts with
    | nil => exact .some hpart
    | @cons next otherNext parts others hnext hparts =>
      have hall : List.Forall₂ (Expression.Alike R) (part :: next :: parts)
          (other :: otherNext :: others) := .cons hpart (.cons hnext hparts)
      have htemplate : (other :: otherNext :: others).map (fun _ => "[]") =
          (part :: next :: parts).map fun _ => "[]" := by
        simp [hparts.length_eq]
      unfold joinParts
      dsimp only
      rw [htemplate]
      exact .some (Expression.alike_of_fixed (forall₂_expression hall))

end Predicates

mutual

/-- Alike predicates become alike expressions. -/
theorem Predicate.toExpression_alike (dialect : Dialect) {predicate other : Predicate}
    (h : predicate.Alike R other) :
    AlikeOutcomes R (Option.Rel (Expression.Alike R)) (predicate.toExpression dialect)
      (other.toExpression dialect) := by
  match predicate, other, h with
  | _, _, .comparison operator hfield hvalue hnull =>
    rw [Predicate.toExpression, Predicate.toExpression]
    have hcomparison := comparisonExpression_alike dialect operator hfield hvalue hnull
    exact hcomparison.elim (fun _ _ herror => .error herror) fun _ _ he => .ok (.some he)
  | _, _, .fragment hfragment =>
    rw [Predicate.toExpression, Predicate.toExpression]
    have htags : Template.tags (Template.tokenize "[]") = Template.placed 0 [.param] :=
      Template.HasUnnamed.brackets.tags_tokenize
    exact .ok (.some (Expression.alike_of_placed htags (.cons hfragment .nil)))
  | .group _ parts, .group _ others, .group junction hparts =>
    rw [Predicate.toExpression, Predicate.toExpression]
    have hexpressions := predicateExpressions_alike dialect hparts
    exact hexpressions.elim (fun _ _ herror => .error herror) fun _ _ hes =>
      .ok (joinParts_alike junction hes)

/-- Alike predicates become alike expressions, one by one. -/
theorem predicateExpressions_alike (dialect : Dialect) {predicates others : List Predicate}
    (h : List.Forall₂ (Predicate.Alike R) predicates others) :
    AlikeOutcomes R (List.Forall₂ (Expression.Alike R)) (predicateExpressions dialect predicates)
      (predicateExpressions dialect others) := by
  match predicates, others, h with
  | [], [], _ =>
    rw [predicateExpressions]
    exact .ok .nil
  | predicate :: predicates, other :: others, .cons hpredicate hrest =>
    rw [predicateExpressions, predicateExpressions]
    have hfirst := Predicate.toExpression_alike dialect hpredicate
    have hothers := predicateExpressions_alike dialect hrest
    refine hfirst.elim (fun _ _ herror => .error herror) fun part otherPart hpart => ?_
    refine hothers.elim (fun _ _ herror => .error herror) fun es fs hes => ?_
    cases hpart with
    | none => exact .ok hes
    | some hpart => exact .ok (.cons hpart hes)

end

/-! ### Alike clauses -/

/-- Items of one template with operands that are alike in the place of any tag. -/
structure ClauseItem.Alike (R : Value → Value → Prop) (item other : ClauseItem) : Prop where
  /-- The templates. -/
  template : item.template = other.template
  /-- The operands. -/
  operands : List.Forall₂ (Argument.Fixed R) item.operands other.operands

namespace ClauseItem

/-- Soft identifiers. -/
theorem soft_alike {argument other : Argument} (h : argument.Alike R .soft other) :
    (soft argument).Alike R (soft other) :=
  ⟨rfl, .cons h.fixed .nil⟩

/-- Tables or fields. -/
theorem ofSource_alike (separator : String) {source other : Source}
    (h : source.Alike R other) :
    (ofSource separator source).Alike R (ofSource separator other) := by
  obtain ⟨aliasName, hsource⟩ := h
  cases aliasName with
  | none => exact soft_alike hsource
  | some aliasName =>
    unfold ofSource
    dsimp only
    rw [hsource.sourceName?_eq]
    split
    · exact soft_alike hsource
    · exact ⟨rfl, .cons hsource.fixed (.cons (Argument.fixed_text aliasName) .nil)⟩

/-- Joined tables. -/
theorem ofJoin_alike {join other : Join} (h : join.Alike R other) :
    (ofJoin join).Alike R (ofJoin other) := by
  have htext (text : String) : Argument.Fixed R (.text text) (.text text) :=
    Argument.fixed_text text
  obtain ⟨kind, table, aliasName, left, right⟩ | ⟨kind, table, aliasName, he⟩ := h
  · cases aliasName with
    | none => exact ⟨rfl, .cons (htext _) (.cons (htext _) (.cons (htext _) .nil))⟩
    | some aliasName =>
      exact ⟨rfl, .cons (htext _) (.cons (htext _) (.cons (htext _) (.cons (htext _) .nil)))⟩
  · have hexpression : List.Forall₂ (Argument.Fixed R) [.expression _] [.expression _] :=
      .cons (fun _ => .expression he) .nil
    cases aliasName with
    | none => exact ⟨rfl, .cons (htext _) hexpression⟩
    | some aliasName => exact ⟨rfl, .cons (htext _) (.cons (htext _) hexpression)⟩

/-- Sort keys. -/
theorem ofOrder_alike {item other : OrderItem} (h : item.Alike R other) :
    (ofOrder item).Alike R (ofOrder other) := by
  obtain ⟨hfield, direction⟩ := h
  cases direction with
  | ascending => exact soft_alike hfield
  | descending => exact ⟨rfl, .cons hfield.fixed .nil⟩

/-- Set fields. -/
theorem ofSetField_alike {assignment other : Assignment}
    (h : assignment.Alike R other) :
    (ofSetField assignment).Alike R (ofSetField other) := by
  obtain ⟨field, -⟩ := h
  exact soft_alike (.literal _)

/-- Predicates. -/
theorem ofPredicate_alike {part other : Expression} (h : part.Alike R other) :
    (ofPredicate part).Alike R (ofPredicate other) :=
  ⟨rfl, .cons (fun _ => .expression h) .nil⟩

end ClauseItem

section Lists

variable {items others : List ClauseItem}

/-- Alike items have the same templates. -/
theorem templates_alike (h : List.Forall₂ (ClauseItem.Alike R) items others) :
    items.map (·.template) = others.map (·.template) := by
  induction h with
  | nil => rfl
  | cons hitem _ ih => rw [List.map_cons, List.map_cons, ih, hitem.template]

/-- The operands of alike items are alike, all together. -/
theorem itemOperands_alike (h : List.Forall₂ (ClauseItem.Alike R) items others) :
    List.Forall₂ (Argument.Fixed R) (items.flatMap (·.operands))
      (others.flatMap (·.operands)) := by
  induction h with
  | nil => exact .nil
  | cons hitem _ ih => exact List.rel_append hitem.operands ih

/-- Alike items one after another. -/
theorem listClause_alike (lead separator : String)
    (h : List.Forall₂ (ClauseItem.Alike R) items others) :
    (listClause lead separator items).Alike R (listClause lead separator others) := by
  rw [listClause, listClause, templates_alike h]
  exact Expression.alike_of_fixed (itemOperands_alike h)

/-- Alike items one after another, if there are any. -/
theorem optionalClause_alike (lead separator : String)
    (h : List.Forall₂ (ClauseItem.Alike R) items others) :
    (optionalClause lead separator items).Alike R (optionalClause lead separator others) := by
  unfold optionalClause
  cases h with
  | nil => exact Expression.alike_of_fixed .nil
  | cons hitem hrest => exact listClause_alike lead separator (.cons hitem hrest)

end Lists

/-- Items made in one way of things that are related are alike. -/
theorem forall₂_items {α : Type} {A : α → α → Prop} (item : α → ClauseItem)
    (hitem : ∀ a b, A a b → (item a).Alike R (item b)) {entries others : List α}
    (h : List.Forall₂ A entries others) :
    List.Forall₂ (ClauseItem.Alike R) (entries.map item) (others.map item) :=
  List.forall₂_map_left_iff.2 (List.forall₂_map_right_iff.2 (h.imp hitem))

section Assignments

variable {assignments others : List Assignment}

/-- Set fields with their values one after another, when their items have one template and
operands that are alike in the styles of its tags. -/
theorem assignedItems_alike {template : String} {styles : List TagStyle}
    (hstyles : Template.HasUnnamed template.toList styles) {item : Assignment → ClauseItem}
    (htemplate : ∀ assignment, (item assignment).template = template)
    (hitem : ∀ assignment other, Assignment.Alike R assignment other →
      Argument.AllAlike R styles (item assignment).operands (item other).operands)
    (h : List.Forall₂ (Assignment.Alike R) assignments others) :
    (listClause "" ", " (assignments.map item)).Alike R
      (listClause "" ", " (others.map item)) := by
  have htemplates (entries : List Assignment) :
      (entries.map item).map (·.template) = List.replicate entries.length template := by
    rw [List.map_map, List.eq_replicate_iff]
    simpa using fun assignment _ => htemplate assignment
  have htags : Template.tags (Template.tokenize
      ("" ++ Text.joined ", " (List.replicate assignments.length template))) =
        Template.placed 0 (List.replicate assignments.length styles).flatten := by
    rw [String.empty_append]
    exact (hstyles.joined (by decide) _).tags_tokenize
  have hoperands : Argument.AllAlike R (List.replicate assignments.length styles).flatten
      ((assignments.map item).flatMap (·.operands)) ((others.map item).flatMap (·.operands)) := by
    clear htags
    induction h with
    | nil => exact .nil
    | cons hassignment _ ih => exact (hitem _ _ hassignment).append ih
  rw [listClause, listClause, htemplates, htemplates, ← h.length_eq]
  exact Expression.alike_of_placed htags hoperands

/-- Set fields with their values. -/
theorem ofAssignments_alike (h : List.Forall₂ (Assignment.Alike R) assignments others) :
    (listClause "" ", " (assignments.map .ofAssignment)).Alike R
      (listClause "" ", " (others.map .ofAssignment)) := by
  have hequals : Template.HasUnnamed " = ".toList [] := .plain (by decide)
  have hstyles : Template.HasUnnamed "\x7b\x7b\x7d\x7d = []".toList [.soft, .param] :=
    Template.HasUnnamed.doubleBraces.append (hequals.append .brackets)
  refine assignedItems_alike hstyles (fun _ => rfl) ?_ h
  rintro _ _ ⟨field, hvalue⟩
  exact .cons (.literal _) (.cons hvalue .nil)

/-- Set values. -/
theorem ofSetValues_alike (h : List.Forall₂ (Assignment.Alike R) assignments others) :
    (listClause "" ", " (assignments.map .ofSetValue)).Alike R
      (listClause "" ", " (others.map .ofSetValue)) := by
  refine assignedItems_alike Template.HasUnnamed.brackets (fun _ => rfl) ?_ h
  rintro _ _ ⟨field, hvalue⟩
  exact .cons hvalue .nil

/-- Set fields. -/
theorem ofSetFields_alike (h : List.Forall₂ (Assignment.Alike R) assignments others) :
    (listClause "" ", " (assignments.map .ofSetField)).Alike R
      (listClause "" ", " (others.map .ofSetField)) :=
  listClause_alike "" ", "
    (forall₂_items .ofSetField (fun _ _ h => ClauseItem.ofSetField_alike h) h)

end Assignments

/-- A row limit has its two counts as named arguments. -/
theorem limitClause_argument? (dialect : Dialect) (limit : RowLimit) (target : TagTarget) :
    (limitClause dialect limit).argument? target =
      if target = .name "count" then
        some (.literal (.number (Number.ofNat limit.count.toNat)))
      else if target = .name "skip" then
        some (.literal (.number (Number.ofNat limit.skip.toNat)))
      else none := by
  cases target with
  | position i => rfl
  | name name =>
    by_cases hcount : name = "count"
    · subst hcount
      rfl
    · by_cases hskip : name = "skip"
      · subst hskip
        rfl
      · rw [if_neg (by simpa using hcount), if_neg (by simpa using hskip)]
        simp [Expression.argument?, limitClause, Ne.symm hcount, Ne.symm hskip]

/-- Row limits. -/
theorem limitClause_alike (dialect : Dialect) {limit other : RowLimit} (h : limit.Alike R other) :
    (limitClause dialect limit).Alike R (limitClause dialect other) := by
  refine .intro (fun target => ?_)
    fun text htext target style htag argument found hleft hright => ?_
  · change ((limitClause dialect limit).argument? target).isSome =
      ((limitClause dialect other).argument? target).isSome
    rw [limitClause_argument?, limitClause_argument?]
    split
    · simp only [Option.isSome_some]
    · split
      · simp only [Option.isSome_some]
      · rfl
  · obtain rfl := Option.some.inj htext
    obtain rfl : style = .param := by
      have hmem := Template.mem_tags.2 htag
      rw [tags_limitTemplate] at hmem
      obtain htag | htag := Dialect.mem_inPlaces.1 hmem
      · exact (Prod.mk.inj htag).2
      · exact (Prod.mk.inj htag).2
    replace hleft := (limitClause_argument? dialect limit target).symm.trans hleft
    replace hright := (limitClause_argument? dialect other target).symm.trans hright
    by_cases hcount : target = .name "count"
    · rw [if_pos hcount] at hleft hright
      rw [← Option.some.inj hleft, ← Option.some.inj hright]
      exact .value h.count
    · rw [if_neg hcount] at hleft hright
      by_cases hskip : target = .name "skip"
      · rw [if_pos hskip] at hleft hright
        rw [← Option.some.inj hleft, ← Option.some.inj hright]
        exact .value h.skip
      · rw [if_neg hskip] at hleft
        simp at hleft

namespace Statement

/-- The predicates of a clause. -/
theorem predicateClause_alike (lead : String) (dialect : Dialect)
    {predicates others : List Predicate}
    (h : List.Forall₂ (Predicate.Alike R) predicates others) :
    AlikeOutcomes R (Expression.Alike R) (predicateClause lead predicates dialect)
      (predicateClause lead others dialect) := by
  unfold predicateClause
  refine (predicateExpressions_alike dialect h).elim (fun _ _ herror => .error herror)
    fun parts otherParts hparts => ?_
  have hitems := forall₂_items .ofPredicate (fun _ _ h => ClauseItem.ofPredicate_alike h) hparts
  exact .ok (optionalClause_alike lead " and " hitems)

/-- The sorting. -/
theorem orderClause_alike {s t : Statement} (h : s.Alike R t) (dialect : Dialect) :
    (s.orderClause dialect).Alike R (t.orderClause dialect) := by
  obtain ⟨_, _, _, _, _, _, _, _, _, _, horder, hlimit, _⟩ := h
  have hitems := forall₂_items .ofOrder (fun _ _ h => ClauseItem.ofOrder_alike h) horder
  have hsome : ∀ {limit limit' : Option RowLimit}, Option.Rel (RowLimit.Alike R) limit limit' →
      limit.isSome = limit'.isSome := by
    rintro _ _ (_ | _) <;> rfl
  unfold orderClause
  dsimp only
  rw [hsome hlimit]
  cases horder with
  | nil =>
    split
    · exact Expression.alike_of_fixed .nil
    · exact optionalClause_alike _ _ .nil
  | cons hitem hrest => exact optionalClause_alike _ _ hitems

/-- A clause of set fields, which needs one at least. -/
theorem assignmentClause_alike {s t : Statement} (h : s.Alike R t) {item : Assignment → ClauseItem}
    (hitems : ∀ {assignments others : List Assignment},
      List.Forall₂ (Assignment.Alike R) assignments others →
      (listClause "" ", " (assignments.map item)).Alike R
        (listClause "" ", " (others.map item))) :
    AlikeOutcomes R (Expression.Alike R) (s.assignmentClause item) (t.assignmentClause item) := by
  obtain ⟨_, _, _, _, _, _, _, _, _, _, _, _, hassignments⟩ := h
  have hclause := hitems hassignments
  unfold assignmentClause
  cases hassignments with
  | nil => exact .error (.same _)
  | cons hassignment hrest => exact .ok hclause

/-- The clauses of alike statements are alike, or fail alike. -/
theorem clause_alike {s t : Statement} (h : s.Alike R t) (dialect : Dialect) (part : Clause) :
    AlikeOutcomes R (Expression.Alike R) (s.clause dialect part) (t.clause dialect part) := by
  have horderClause := orderClause_alike h dialect
  have hassigned := assignmentClause_alike h ofAssignments_alike
  have hsetFields := assignmentClause_alike h ofSetFields_alike
  have hsetValues := assignmentClause_alike h ofSetValues_alike
  obtain ⟨_, _, mode, options, hfields, htables, hjoins, hwheres, hgroups, hhavings, -, hlimit,
    -⟩ := h
  cases part with
  | options =>
    unfold clause
    dsimp only
    split
    · exact .ok (Expression.alike_of_fixed .nil)
    · exact .ok (Expression.alike_of_fixed .nil)
  | fields =>
    have hitems := forall₂_items (.ofSource " as ")
      (fun _ _ h => ClauseItem.ofSource_alike " as " h) hfields
    cases hfields with
    | nil => exact .ok (Expression.alike_of_fixed .nil)
    | cons hfield hrest => exact .ok (listClause_alike _ _ hitems)
  | tables =>
    exact .ok (optionalClause_alike _ _
      (forall₂_items (.ofSource " ") (fun _ _ h => ClauseItem.ofSource_alike " " h) htables))
  | tableNoAlias =>
    cases htables with
    | nil => exact .error (.same _)
    | cons htable hrest =>
      obtain ⟨aliasName, hsource⟩ := htable
      exact .ok (listClause_alike "" "" (.cons (ClauseItem.soft_alike hsource) .nil))
  | joins =>
    exact .ok (optionalClause_alike _ _
      (forall₂_items .ofJoin (fun _ _ h => ClauseItem.ofJoin_alike h) hjoins))
  | wheres => exact predicateClause_alike " where " dialect hwheres
  | groups =>
    exact .ok (optionalClause_alike _ _
      (forall₂_items .soft (fun _ _ h => ClauseItem.soft_alike h) hgroups))
  | havings => exact predicateClause_alike " having " dialect hhavings
  | order => exact .ok horderClause
  | limit =>
    cases hlimit with
    | none => exact .ok (Expression.alike_of_fixed .nil)
    | some hlimit => exact .ok (limitClause_alike dialect hlimit)
  | assignments => exact hassigned
  | setFields => exact hsetFields
  | setValues => exact hsetValues

end Statement

end ScopeQuery
