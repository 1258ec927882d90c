import Mathlib.Data.List.Forall2
import ScopeQuery.Sql.Clause
import ScopeQuery.Template.Tokenize

/-!
# Alike statements

Statements that differ in nothing but values in the place of values. A value is in the place
of a value where only a parameter tag refers to it: as the second operand of a comparison, an
item of a list there, a set value or a count of rows. It may be replaced by another scalar; a
relation says which one may stand for which. Everything else is the same, down to whether an
operand is null and how long a list is, except for the dialects of nested statements, which
are rendered in that of the outermost one.
-/

namespace ScopeQuery

/-- Values of which one may stand for the other in the place of a value: the same value, or
related values that are no arrays. -/
def Value.Alike (R : Value → Value → Prop) (v w : Value) : Prop :=
  v = w ∨ R v w ∧ v.isArray = false ∧ w.isArray = false

/-- Row limits with counts of which one may stand for the other. -/
structure RowLimit.Alike (R : Value → Value → Prop) (limit other : RowLimit) : Prop where
  /-- The largest numbers of rows. -/
  count : Value.Alike R (.number (Number.ofNat limit.count.toNat))
    (.number (Number.ofNat other.count.toNat))
  /-- The numbers of rows left out. -/
  skip : Value.Alike R (.number (Number.ofNat limit.skip.toNat))
    (.number (Number.ofNat other.skip.toNat))

section Lifted

variable (A : TagStyle → Argument → Argument → Prop)

/-- Expressions with one template, each tag of which stands for arguments that are related as
the tag asks. -/
inductive Expression.Rel : Expression → Expression → Prop where
  /-- The same tags have an argument, and those in the template have related ones. -/
  | intro {template : Option String} {operands others : List Argument}
      {named otherNamed : List NamedArgument} {wrapped : Bool}
      (present : ∀ target,
        (Expression.argument? ⟨template, operands, named, wrapped⟩ target).isSome =
          (Expression.argument? ⟨template, others, otherNamed, wrapped⟩ target).isSome)
      (arguments : ∀ text, template = some text → ∀ target style,
        .tag target style ∈ Template.tokenize text → ∀ argument other,
          Expression.argument? ⟨template, operands, named, wrapped⟩ target = some argument →
          Expression.argument? ⟨template, others, otherNamed, wrapped⟩ target = some other →
          A style argument other) :
      Rel ⟨template, operands, named, wrapped⟩ ⟨template, others, otherNamed, wrapped⟩

/-- Tables or fields of one name. -/
inductive Source.Rel : Source → Source → Prop where
  /-- Sources that are related as soft identifiers. -/
  | intro (aliasName : Option String) {source other : Argument} (h : A .soft source other) :
      Rel ⟨aliasName, source⟩ ⟨aliasName, other⟩

/-- The same table, joined on the same columns or on related expressions. -/
inductive Join.Rel : Join → Join → Prop where
  /-- The same columns. -/
  | columns (kind : JoinKind) (table : String) (aliasName : Option String) (left right : String) :
      Rel ⟨kind, table, aliasName, .columns left right⟩
        ⟨kind, table, aliasName, .columns left right⟩
  /-- Related expressions. -/
  | expression (kind : JoinKind) (table : String) (aliasName : Option String) {e f : Expression}
      (h : e.Rel A f) :
      Rel ⟨kind, table, aliasName, .expression e⟩ ⟨kind, table, aliasName, .expression f⟩

/-- Predicates of one shape with related operands and fragments. -/
inductive Predicate.Rel : Predicate → Predicate → Prop where
  /-- The same comparison, with null on both sides or on neither. -/
  | comparison {field otherField value other : Argument} (operator : Option Operator)
      (hfield : A .soft field otherField) (hvalue : A .param value other)
      (hnull : value.isNull = other.isNull) :
      Rel (.comparison field operator value) (.comparison otherField operator other)
  /-- Related fragments. -/
  | fragment {fragment other : Argument} (h : A .param fragment other) :
      Rel (.fragment fragment) (.fragment other)
  /-- The same group of related predicates. -/
  | group (junction : Junction) {parts others : List Predicate}
      (h : List.Forall₂ Rel parts others) : Rel (.group junction parts) (.group junction others)

/-- Sort keys of one order. -/
inductive OrderItem.Rel : OrderItem → OrderItem → Prop where
  /-- Keys that are related as soft identifiers. -/
  | intro {field other : Argument} (h : A .soft field other) (direction : SortDirection) :
      Rel ⟨field, direction⟩ ⟨other, direction⟩

/-- The same field set to related values. -/
inductive Assignment.Rel : Assignment → Assignment → Prop where
  /-- Values that are related as parameters. -/
  | intro (field : String) {value other : Argument} (h : A .param value other) :
      Rel ⟨field, value⟩ ⟨field, other⟩

/-- Statements that are related clause by clause. Their dialects may differ. -/
inductive Statement.Rel (L : RowLimit → RowLimit → Prop) : Statement → Statement → Prop where
  /-- The same mode and keywords, and related clauses. -/
  | intro (dialect otherDialect : Dialect) (mode : Option Mode) (options : List String)
      {fields fields' tables tables' : List Source} {joins joins' : List Join}
      {wheres wheres' havings havings' : List Predicate} {groups groups' : List Argument}
      {order order' : List OrderItem} {limit limit' : Option RowLimit}
      {assignments assignments' : List Assignment}
      (hfields : List.Forall₂ (Source.Rel A) fields fields')
      (htables : List.Forall₂ (Source.Rel A) tables tables')
      (hjoins : List.Forall₂ (Join.Rel A) joins joins')
      (hwheres : List.Forall₂ (Predicate.Rel A) wheres wheres')
      (hgroups : List.Forall₂ (A .soft) groups groups')
      (hhavings : List.Forall₂ (Predicate.Rel A) havings havings')
      (horder : List.Forall₂ (OrderItem.Rel A) order order')
      (hlimit : Option.Rel L limit limit')
      (hassignments : List.Forall₂ (Assignment.Rel A) assignments assignments') :
      Rel L
        ⟨dialect, mode, options, fields, tables, joins, wheres, groups, havings, order, limit,
          assignments⟩
        ⟨otherDialect, mode, options, fields', tables', joins', wheres', groups', havings', order',
          limit', assignments'⟩

end Lifted

/-- Arguments of which one may stand for the other in the place of a tag of a style. -/
inductive Argument.Alike (R : Value → Value → Prop) : TagStyle → Argument → Argument → Prop where
  /-- A value is the same wherever it stands. -/
  | literal {style : TagStyle} (value : Value) : Alike R style (.literal value) (.literal value)
  /-- As a parameter, a value may be another one. -/
  | value {v w : Value} (h : v.Alike R w) : Alike R .param (.literal v) (.literal w)
  /-- As a parameter, an array may have other items. -/
  | array {items others : List Value} (h : List.Forall₂ (Value.Alike R) items others) :
      Alike R .param (.literal (.array items)) (.literal (.array others))
  /-- Expressions with alike arguments. -/
  | expression {style : TagStyle} {e f : Expression} (h : e.Rel (Argument.Alike R) f) :
      Alike R style (.expression e) (.expression f)
  /-- Sub-queries with alike clauses. -/
  | statement {style : TagStyle} {s t : Statement}
      (h : s.Rel (Argument.Alike R) (RowLimit.Alike R) t) :
      Alike R style (.statement s) (.statement t)
  /-- Lists that are alike item by item. -/
  | list {style : TagStyle} {items others : List Argument} (hlength : items.length = others.length)
      (h : ∀ {item other : Argument}, (item, other) ∈ items.zip others →
        Alike R style item other) :
      Alike R style (.list items) (.list others)

/-- Expressions with the same template and alike arguments. -/
abbrev Expression.Alike (R : Value → Value → Prop) : Expression → Expression → Prop :=
  Expression.Rel (Argument.Alike R)

/-- Tables or fields that are alike. -/
abbrev Source.Alike (R : Value → Value → Prop) : Source → Source → Prop :=
  Source.Rel (Argument.Alike R)

/-- Joined tables that are alike. -/
abbrev Join.Alike (R : Value → Value → Prop) : Join → Join → Prop := Join.Rel (Argument.Alike R)

/-- Predicates that are alike. -/
abbrev Predicate.Alike (R : Value → Value → Prop) : Predicate → Predicate → Prop :=
  Predicate.Rel (Argument.Alike R)

/-- Sort keys that are alike. -/
abbrev OrderItem.Alike (R : Value → Value → Prop) : OrderItem → OrderItem → Prop :=
  OrderItem.Rel (Argument.Alike R)

/-- The same field set to alike values. -/
abbrev Assignment.Alike (R : Value → Value → Prop) : Assignment → Assignment → Prop :=
  Assignment.Rel (Argument.Alike R)

/-- Statements with alike clauses. -/
abbrev Statement.Alike (R : Value → Value → Prop) : Statement → Statement → Prop :=
  Statement.Rel (Argument.Alike R) (RowLimit.Alike R)

end ScopeQuery
