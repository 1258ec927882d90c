import ScopeQuery.Sql.Building
import Mathlib.Data.List.Nodup

/-!
# Runs of building calls

A call of the builder has one part of the statement that it gives one item. A call that is refused
leaves the statement as it is, so what holds of every statement that calls can build is what no
single call breaks: tables go by different names, fields do too, and a mode stays fixed.
-/

namespace ScopeQuery

/-- A part of a statement that calls give items. -/
inductive StatementPart where
  /-- What the statement does. -/
  | mode
  /-- The keywords after the verb. -/
  | options
  /-- The selected fields. -/
  | fields
  /-- The tables read from. -/
  | tables
  /-- The joined tables. -/
  | joins
  /-- The predicates on rows. -/
  | wheres
  /-- What rows are grouped by. -/
  | groups
  /-- The predicates on groups. -/
  | havings
  /-- The sort keys. -/
  | order
  /-- How many rows are returned. -/
  | limit
  /-- The fields that are set. -/
  | assignments
deriving DecidableEq

/-- A source is not taken because its name is that of another one. -/
def SourceTaken (kind : AliasKind) (sources : List Source) (source : Source)
    (error : QueryError) : Prop :=
  ∃ key ∈ sources.filterMap Source.key?, source.key? = some key ∧ error = .aliasTaken kind key

namespace StatementPart

/-- What the items of a part are. -/
abbrev Item : StatementPart → Type
  | .mode => Mode
  | .options => String
  | .fields | .tables => Source
  | .joins => Join
  | .wheres | .havings => Predicate
  | .groups => Argument
  | .order => OrderItem
  | .limit => RowLimit
  | .assignments => Assignment

/-- Whether a part holds one setting rather than any number of items. -/
def isSetting : StatementPart → Bool
  | .mode | .limit => true
  | _ => false

/-- The items of a part with one more: behind the others, or in the place of the setting. -/
def extended (part : StatementPart) (items : List part.Item) (item : part.Item) :
    List part.Item :=
  if part.isSetting then [item] else items ++ [item]

/-- A part that holds some items does not take one more, for the reason given: another mode is
fixed, or the name of the source is taken. -/
def Refuses : (part : StatementPart) → List part.Item → part.Item → QueryError → Prop
  | .mode, items, requested, error =>
    ∃ current ∈ items, current ≠ requested ∧ error = .modeFixed current requested
  | .fields, items, source, error => SourceTaken .field items source error
  | .tables, items, source, error => SourceTaken .table items source error
  | _, _, _, _ => False

end StatementPart

namespace Statement

/-- What a statement holds in one of its parts. -/
def items (statement : Statement) : (part : StatementPart) → List part.Item
  | .mode => statement.givenMode.toList
  | .options => statement.options
  | .fields => statement.fields
  | .tables => statement.tables
  | .joins => statement.joins
  | .wheres => statement.wheres
  | .groups => statement.groups
  | .havings => statement.havings
  | .order => statement.order
  | .limit => statement.limit.toList
  | .assignments => statement.assignments

/-- A statement with one more item in a part. -/
def withItem (statement : Statement) : (part : StatementPart) → part.Item → Statement
  | .mode, mode => { statement with givenMode := some mode }
  | .options, text => statement.addOption text
  | .fields, source => statement.withSource source .field
  | .tables, source => statement.withSource source .table
  | .joins, join => statement.addJoin join
  | .wheres, predicate => statement.addWhere predicate
  | .groups, field => statement.addGroup field
  | .havings, predicate => statement.addHaving predicate
  | .order, item => statement.addOrder item.field item.direction
  | .limit, limit => statement.setLimit limit.count limit.skip
  | .assignments, assignment => statement.addAssignment assignment.field assignment.value

theorem items_withItem_self (statement : Statement) (part : StatementPart) (item : part.Item) :
    (statement.withItem part item).items part = part.extended (statement.items part) item := by
  cases part with
  | order | limit | assignments => cases item; rfl
  | _ => rfl

theorem items_withItem_of_ne (statement : Statement) {part other : StatementPart}
    (hother : other ≠ part) (item : part.Item) :
    (statement.withItem part item).items other = statement.items other := by
  cases part <;> cases other <;> first | rfl | exact absurd rfl hother

theorem dialect_withItem (statement : Statement) (part : StatementPart) (item : part.Item) :
    (statement.withItem part item).dialect = statement.dialect := by
  cases part <;> rfl

end Statement

namespace BuilderCall

/-- The part that a call is about. -/
def part : BuilderCall → StatementPart
  | .setMode _ => .mode
  | .addOption _ => .options
  | .addTable _ | .addTableAs _ _ | .addTableSource _ _ => .tables
  | .addField _ | .addFieldAs _ _ | .addFieldSource _ _ => .fields
  | .addJoin _ => .joins
  | .addWhere _ | .compareWhere _ _ _ | .fragmentWhere _ | .groupWhere _ _ => .wheres
  | .addHaving _ | .compareHaving _ _ _ => .havings
  | .addGroup _ => .groups
  | .addOrder _ _ => .order
  | .setLimit _ _ => .limit
  | .addAssignment _ _ => .assignments

/-- The item that a call gives its part. -/
def item : (call : BuilderCall) → call.part.Item
  | .setMode mode => mode
  | .addOption text => text
  | .addTable name => ⟨none, .text name⟩
  | .addTableAs name aliasName => ⟨some aliasName, .text name⟩
  | .addTableSource source aliasName => ⟨some aliasName, source⟩
  | .addField name => ⟨none, .text name⟩
  | .addFieldAs name aliasName => ⟨some aliasName, .text name⟩
  | .addFieldSource source aliasName => ⟨aliasName, source⟩
  | .addJoin join => join
  | .addWhere predicate => predicate
  | .compareWhere field operator value => .comparison field operator value
  | .fragmentWhere fragment => .fragment fragment
  | .groupWhere junction predicates => .group junction predicates
  | .addHaving predicate => predicate
  | .compareHaving field operator value => .comparison field operator value
  | .addGroup field => field
  | .addOrder field direction => ⟨field, direction⟩
  | .setLimit count skip => ⟨count, skip⟩
  | .addAssignment field value => ⟨field, value⟩

/-- A statement does not take what a call gives, for the reason given. -/
def Refused (call : BuilderCall) (statement : Statement) (error : QueryError) : Prop :=
  call.part.Refuses (statement.items call.part) call.item error

/-- A call has given its part its one item, and everything else is as it was. -/
structure Gives (call : BuilderCall) (before after : Statement) : Prop where
  /-- The part has one more item, or a new setting. -/
  own : after.items call.part = call.part.extended (before.items call.part) call.item
  /-- Another part is as it was. -/
  others : ∀ part, part ≠ call.part → after.items part = before.items part
  /-- The dialect is as it was. -/
  dialect : after.dialect = before.dialect

end BuilderCall

/-! ### One call -/

/-- A source is told its name is taken, or it has none of the names of the others. -/
theorem checkFree_cases (kind : AliasKind) (sources : List Source) (source : Source) :
    (∃ key ∈ sources.filterMap Source.key?, source.key? = some key ∧
        checkFree kind sources source = .error (.aliasTaken kind key)) ∨
      (∀ key ∈ sources.filterMap Source.key?, source.key? ≠ some key) ∧
        checkFree kind sources source = .ok () := by
  unfold checkFree
  cases hkey : source.key? with
  | none => exact .inr ⟨by simp, rfl⟩
  | some key =>
    have hany : (sources.any fun other => other.key? == some key) = true ↔
        key ∈ sources.filterMap Source.key? := by
      simp [List.any_eq_true, List.mem_filterMap]
    by_cases hmem : key ∈ sources.filterMap Source.key?
    · exact .inl ⟨key, hmem, rfl, if_pos (hany.mpr hmem)⟩
    · refine .inr ⟨?_, if_neg (mt hany.mp hmem)⟩
      rintro other hother ⟨⟩
      exact hmem hother

/-- A source is refused and nothing changes, or its name is free and it is put behind the
others. -/
theorem Building.pushSource_cases (kind : AliasKind) (aliasName : Option String)
    (source : Argument) (statement : Statement) :
    (∃ error, SourceTaken kind (statement.sources kind) ⟨aliasName, source⟩ error ∧
        (pushSource kind aliasName source).on statement = (.error error, statement)) ∨
      (∀ error, ¬ SourceTaken kind (statement.sources kind) ⟨aliasName, source⟩ error) ∧
        (pushSource kind aliasName source).on statement =
          (.ok (), statement.withSource ⟨aliasName, source⟩ kind) := by
  rw [changes_pushSource kind aliasName source statement]
  obtain ⟨key, hmem, hkey, hcheck⟩ | ⟨hfree, hcheck⟩ :=
    checkFree_cases kind (statement.sources kind) ⟨aliasName, source⟩
  · exact .inl ⟨_, ⟨key, hmem, hkey, rfl⟩, by simp [Statement.addSource, hcheck, Except.map]⟩
  · refine .inr ⟨?_, by simp [Statement.addSource, hcheck, Except.map]⟩
    rintro error ⟨key, hmem, hkey, -⟩
    exact hfree key hmem hkey

/-- A mode is refused and nothing changes, or no other one is fixed and it is. -/
theorem Building.fixMode_cases (mode : Mode) (statement : Statement) :
    (∃ current ∈ statement.givenMode, current ≠ mode ∧
        (fixMode mode).on statement = (.error (.modeFixed current mode), statement)) ∨
      (∀ current ∈ statement.givenMode, current = mode) ∧
        (fixMode mode).on statement = (.ok (), { statement with givenMode := some mode }) := by
  rw [changes_fixMode mode statement]
  obtain ⟨dialect, givenMode⟩ := statement
  cases givenMode with
  | none => exact .inr ⟨by simp, rfl⟩
  | some current =>
    by_cases hcurrent : current = mode
    · exact .inr ⟨by simp [hcurrent], by simp [Statement.setMode, hcurrent]⟩
    · exact .inl ⟨current, rfl, hcurrent, by simp [Statement.setMode, hcurrent]⟩

/-- What a call does: it is refused and nothing changes, or nothing refuses it and it gives its
part its item. -/
theorem BuilderCall.step_cases (call : BuilderCall) (statement : Statement) :
    (∃ error, call.Refused statement error ∧ call.step.on statement = (.error error, statement)) ∨
      (∀ error, ¬ call.Refused statement error) ∧
        call.step.on statement = (.ok (), statement.withItem call.part call.item) := by
  cases call with
  | setMode mode =>
    obtain ⟨current, hcurrent, hother, hon⟩ | ⟨hsame, hon⟩ :=
      Building.fixMode_cases mode statement
    · exact .inl ⟨_, ⟨current, Option.mem_toList.mpr hcurrent, hother, rfl⟩, hon⟩
    · refine .inr ⟨?_, hon⟩
      rintro error ⟨current, hcurrent, hother, -⟩
      exact hother (hsame current (Option.mem_toList.mp hcurrent))
  | addTable name => exact Building.pushSource_cases .table none (.text name) statement
  | addTableAs name aliasName =>
    exact Building.pushSource_cases .table (some aliasName) (.text name) statement
  | addTableSource source aliasName =>
    exact Building.pushSource_cases .table (some aliasName) source statement
  | addField name => exact Building.pushSource_cases .field none (.text name) statement
  | addFieldAs name aliasName =>
    exact Building.pushSource_cases .field (some aliasName) (.text name) statement
  | addFieldSource source aliasName =>
    exact Building.pushSource_cases .field aliasName source statement
  | _ => exact .inr ⟨fun _ => id, rfl⟩

/-- A call that succeeds gives its part its item and leaves the rest. -/
theorem BuilderCall.gives_withItem (call : BuilderCall) (statement : Statement) :
    call.Gives statement (statement.withItem call.part call.item) where
  own := statement.items_withItem_self call.part call.item
  others _ hother := statement.items_withItem_of_ne hother call.item
  dialect := statement.dialect_withItem call.part call.item

/-! ### What no call breaks -/

/-- No two tables go by one name, and no two fields do. -/
structure Statement.NamesApart (statement : Statement) : Prop where
  /-- The names of the tables are pairwise distinct. -/
  tables : (statement.tables.filterMap Source.key?).Nodup
  /-- The names of the fields are pairwise distinct. -/
  fields : (statement.fields.filterMap Source.key?).Nodup

/-- Names stay distinct with a source that none refuses. -/
theorem nodup_keys_append {kind : AliasKind} {sources : List Source} {source : Source}
    (hsources : (sources.filterMap Source.key?).Nodup)
    (hfree : ∀ error, ¬ SourceTaken kind sources source error) :
    ((sources ++ [source]).filterMap Source.key?).Nodup := by
  rw [List.filterMap_append]
  cases hkey : source.key? with
  | none => simpa [hkey] using hsources
  | some key =>
    have hnew : key ∉ sources.filterMap Source.key? :=
      fun hmem => hfree _ ⟨key, hmem, hkey, rfl⟩
    have hlast : [source].filterMap Source.key? = [key] := by simp [hkey]
    rw [hlast]
    exact List.nodup_append.mpr ⟨hsources, List.nodup_singleton key, by
      rintro other hother last hlast rfl
      rw [List.mem_singleton] at hlast
      exact hnew (hlast ▸ hother)⟩

namespace Statement

variable {statement : Statement} {part : StatementPart} {item : part.Item}

/-- An item that its part does not refuse leaves all names distinct. -/
theorem NamesApart.withItem (hnames : statement.NamesApart)
    (hfree : ∀ error, ¬ part.Refuses (statement.items part) item error) :
    (statement.withItem part item).NamesApart := by
  cases part with
  | tables => exact ⟨nodup_keys_append hnames.tables hfree, hnames.fields⟩
  | fields => exact ⟨hnames.tables, nodup_keys_append hnames.fields hfree⟩
  | _ => exact ⟨hnames.tables, hnames.fields⟩

/-- An item that its part does not refuse leaves the mode that is fixed. -/
theorem givenMode_withItem {mode : Mode} (hmode : statement.givenMode = some mode)
    (hfree : ∀ error, ¬ part.Refuses (statement.items part) item error) :
    (statement.withItem part item).givenMode = some mode := by
  cases part with
  | mode =>
    have hsame : mode = item := by
      by_contra hother
      exact hfree _ ⟨mode, Option.mem_toList.mpr hmode, hother, rfl⟩
    rw [hsame]
    rfl
  | _ => exact hmode

/-- A call leaves all names distinct. -/
theorem NamesApart.step (hnames : statement.NamesApart) (call : BuilderCall) :
    (call.step.on statement).2.NamesApart := by
  obtain ⟨error, -, hon⟩ | ⟨hfree, hon⟩ := call.step_cases statement
  · rwa [hon]
  · rw [hon]
    exact hnames.withItem hfree

/-- A call leaves the mode that is fixed. -/
theorem givenMode_step {mode : Mode} (hmode : statement.givenMode = some mode)
    (call : BuilderCall) : (call.step.on statement).2.givenMode = some mode := by
  obtain ⟨error, -, hon⟩ | ⟨hfree, hon⟩ := call.step_cases statement
  · rwa [hon]
  · rw [hon]
    exact givenMode_withItem hmode hfree

/-! ### Runs -/

/-- What every call keeps, a run keeps. -/
theorem afterCalls_keeps (Keeps : Statement → Prop)
    (hstep : ∀ {statement : Statement}, Keeps statement →
      ∀ call : BuilderCall, Keeps (call.step.on statement).2)
    (hstart : Keeps statement) (calls : List BuilderCall) :
    Keeps (statement.afterCalls calls) := by
  induction calls generalizing statement with
  | nil => exact hstart
  | cons call rest ih => exact ih (hstep hstart call)

/-- A new statement has no names at all. -/
theorem namesApart_empty (dialect : Dialect) : (empty dialect).NamesApart :=
  ⟨List.nodup_nil, List.nodup_nil⟩

/-- Whatever calls build a statement, some of them refused: its tables go by different names, and
so do its fields. The next call is refused when another mode is fixed or the name of its source is
taken, and then the statement is exactly what it was; otherwise only the part the call is about
changes, by the one item it is given. A mode that a call has fixed stays, whatever is called
later. -/
theorem afterCalls_invariant (dialect : Dialect) (calls : List BuilderCall) :
    ((empty dialect).afterCalls calls).NamesApart ∧
      (∀ call : BuilderCall,
        (∃ error, call.Refused ((empty dialect).afterCalls calls) error ∧
            call.step.on ((empty dialect).afterCalls calls) =
              (.error error, (empty dialect).afterCalls calls)) ∨
          (∀ error, ¬ call.Refused ((empty dialect).afterCalls calls) error) ∧
            ∃ changed, call.step.on ((empty dialect).afterCalls calls) = (.ok (), changed) ∧
              call.Gives ((empty dialect).afterCalls calls) changed) ∧
      ∀ mode changed later,
        (BuilderCall.setMode mode).step.on ((empty dialect).afterCalls calls) = (.ok (), changed) →
          (changed.afterCalls later).givenMode = some mode := by
  refine ⟨afterCalls_keeps NamesApart NamesApart.step (namesApart_empty dialect) calls,
    fun call => ?_, fun mode changed later hset => ?_⟩
  · obtain hrefused | ⟨hfree, hon⟩ := call.step_cases ((empty dialect).afterCalls calls)
    · exact .inl hrefused
    · exact .inr ⟨hfree, _, hon, call.gives_withItem _⟩
  · obtain ⟨current, -, -, hon⟩ | ⟨-, hon⟩ :=
      Building.fixMode_cases mode ((empty dialect).afterCalls calls)
    · cases hon.symm.trans hset
    · have hfixed : changed.givenMode = some mode :=
        congrArg (fun outcome => outcome.2.givenMode) (hset.symm.trans hon)
      exact afterCalls_keeps (·.givenMode = some mode) givenMode_step hfixed later

/-- A table is refused the alias of another one, an update stays an update, and the names are
distinct all the same. -/
theorem afterCalls_invariant_past_refusals :
    ((empty .mysql).afterCalls
        [.addTableAs "orders" "o", .addTable "o", .addFieldAs "total" "o"]).NamesApart ∧
      ∀ later,
        ((({ empty .mysql with
              tables := [⟨some "o", .text "orders"⟩]
              fields := [⟨some "o", .text "total"⟩]
              givenMode := some .update } : Statement).afterCalls
            (.setMode .delete :: later)).givenMode = some .update) :=
  have hrun := afterCalls_invariant .mysql
    [.addTableAs "orders" "o", .addTable "o", .addFieldAs "total" "o"]
  ⟨hrun.1, fun later => hrun.2.2 .update _ (.setMode .delete :: later) rfl⟩

end Statement

end ScopeQuery
