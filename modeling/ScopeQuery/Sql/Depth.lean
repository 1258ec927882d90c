import ScopeQuery.Sql.Clause

/-!
# Depth of clauses

Turning a clause into an expression adds at most the depth that the statement
has already counted for it. Rendering a statement therefore ends: its clauses
are no deeper than the statement, and every argument of an expression is less
deep than the expression it stands in as an argument.
-/

namespace ScopeQuery

/-- An argument is at most as deep as the list it is in. -/
theorem depth_le_of_mem {argument : Argument} {items : List Argument} (h : argument ∈ items) :
    argument.depth ≤ argumentsDepth items := by
  induction items with
  | nil => simp at h
  | cons first rest ih =>
    rw [argumentsDepth]
    rcases List.mem_cons.1 h with rfl | h
    · omega
    · have := ih h; omega

/-- A list is as deep as a bound that all of its items keep. -/
theorem argumentsDepth_le {items : List Argument} {bound : Nat}
    (h : ∀ argument ∈ items, argument.depth ≤ bound) : argumentsDepth items ≤ bound := by
  induction items with
  | nil => simp [argumentsDepth]
  | cons first rest ih =>
    rw [argumentsDepth]
    have := h first (by simp)
    have := ih fun argument hm => h argument (by simp [hm])
    omega

/-- A named argument is at most as deep as the named arguments together. -/
theorem named_depth_le_of_mem {entry : NamedArgument} {entries : List NamedArgument}
    (h : entry ∈ entries) : entry.argument.depth ≤ namedDepth entries := by
  induction entries with
  | nil => simp at h
  | cons first rest ih =>
    obtain ⟨name, argument⟩ := first
    rw [namedDepth]
    rcases List.mem_cons.1 h with rfl | h
    · exact Nat.le_max_left _ _
    · have := ih h; omega

/-- The argument of a tag is at most as deep as the expression's arguments. -/
theorem Expression.argument?_depth {e : Expression} {target : TagTarget} {argument : Argument}
    (h : e.argument? target = some argument) : argument.depth ≤ e.depth := by
  obtain ⟨template, operands, named, wrapped⟩ := e
  rw [Expression.depth]
  cases target with
  | position i =>
    exact Nat.le_trans (depth_le_of_mem (List.mem_of_getElem? h)) (Nat.le_max_left _ _)
  | name name =>
    simp only [Expression.argument?, Option.map_eq_some_iff] at h
    obtain ⟨entry, hfind, rfl⟩ := h
    exact Nat.le_trans (named_depth_le_of_mem (List.mem_of_find?_eq_some hfind))
      (Nat.le_max_right _ _)

/-- The depth of an expression with positional arguments alone. -/
theorem Expression.depth_ofTemplate (template : String) (operands : List Argument) :
    (Expression.ofTemplate template operands).depth = argumentsDepth operands := by
  simp [Expression.ofTemplate, Expression.depth, namedDepth]

/-- A list clause is as deep as a bound that the operands of its items keep. -/
theorem listClause_depth_le (lead separator : String) {items : List ClauseItem} {bound : Nat}
    (h : ∀ item ∈ items, argumentsDepth item.operands ≤ bound) :
    (listClause lead separator items).depth ≤ bound := by
  rw [listClause, Expression.depth_ofTemplate]
  refine argumentsDepth_le fun argument hm => ?_
  obtain ⟨item, hitem, hoperand⟩ := List.mem_flatMap.1 hm
  exact Nat.le_trans (depth_le_of_mem hoperand) (h item hitem)

/-- The same for a clause that may be left out. -/
theorem optionalClause_depth_le (lead separator : String) {items : List ClauseItem}
    {bound : Nat} (h : ∀ item ∈ items, argumentsDepth item.operands ≤ bound) :
    (optionalClause lead separator items).depth ≤ bound := by
  unfold optionalClause
  split
  · simp [emptyClause, Expression.depth_ofTemplate, argumentsDepth]
  · exact listClause_depth_le lead separator h

/-- A source's item has no operand deeper than the source. -/
theorem ofSource_depth_le {separator : String} {source : Source} {sources : List Source}
    (h : source ∈ sources) :
    argumentsDepth (ClauseItem.ofSource separator source).operands ≤ sourcesDepth sources := by
  induction sources with
  | nil => simp at h
  | cons first rest ih =>
    obtain ⟨aliasName, argument⟩ := first
    rw [sourcesDepth]
    rcases List.mem_cons.1 h with rfl | h
    · simp only [ClauseItem.ofSource]
      split
      · split <;>
          simp only [ClauseItem.soft, argumentsDepth, Argument.text, Argument.depth] <;> omega
      · simp only [ClauseItem.soft, argumentsDepth]
        omega
    · have := ih h; omega

/-- A join's item has no operand deeper than its condition. -/
theorem ofJoin_depth_le {join : Join} {joins : List Join} (h : join ∈ joins) :
    argumentsDepth (ClauseItem.ofJoin join).operands ≤ joinsDepth joins := by
  induction joins with
  | nil => simp at h
  | cons first rest ih =>
    rcases List.mem_cons.1 h with rfl | h
    · obtain ⟨kind, table, aliasName, condition⟩ := join
      cases condition <;> cases aliasName <;>
        simp only [ClauseItem.ofJoin, ClauseItem.ofJoinCondition, joinsDepth, argumentsDepth,
          Argument.text, Argument.depth, List.cons_append, List.nil_append, List.append_nil] <;>
        omega
    · have := ih h
      obtain ⟨kind, table, aliasName, condition⟩ := first
      cases condition <;> simp only [joinsDepth] <;> omega

/-- Joining parts nests each of them in at most one more expression. -/
theorem joinParts_depth_le {junction : Junction} {parts : List Expression} {e : Expression}
    {bound : Nat} (h : ∀ part ∈ parts, part.depth ≤ bound)
    (hjoin : joinParts junction parts = some e) : e.depth ≤ bound + 1 := by
  unfold joinParts at hjoin
  split at hjoin
  · simp at hjoin
  · rename_i part
    have := h part (by simp)
    obtain rfl := Option.some.inj hjoin
    omega
  · obtain rfl := Option.some.inj hjoin
    simp only [Expression.depth, namedDepth, Nat.max_le, Nat.zero_le, and_true]
    refine argumentsDepth_le fun argument hm => ?_
    obtain ⟨part, hpart, rfl⟩ := List.mem_map.1 hm
    rw [Argument.depth]
    have := h part hpart
    omega

/-- A comparison is at most as deep as its operands and the list of a value. -/
theorem comparisonExpression_depth_le {dialect : Dialect} {field value : Argument}
    {operator : Option Operator} {e : Expression}
    (h : comparisonExpression dialect field operator value = .ok e) :
    e.depth ≤ max (max field.depth value.depth) 1 := by
  unfold comparisonExpression at h
  split at h
  · unfold nullTest at h
    split at h
    · simp at h
    · split at h <;> obtain rfl := Except.ok.inj h <;>
        simp only [Expression.depth_ofTemplate, argumentsDepth] <;> omega
  · split at h
    · split at h
      · obtain rfl := Except.ok.inj h
        unfold membership
        split
        · simp only [Expression.depth_ofTemplate, argumentsDepth]
          omega
        · split <;> simp only [Expression.depth_ofTemplate, argumentsDepth] <;> omega
      · simp at h
    · obtain rfl := Except.ok.inj h
      have hvalue : (comparedValue (operator.getD .eq) value).depth ≤ max value.depth 1 := by
        unfold comparedValue
        split
        · simp only [Argument.depth, argumentsDepth]
          omega
        · simp only [Argument.depth, argumentsDepth]
          omega
        · omega
      simp only [Expression.depth_ofTemplate, argumentsDepth]
      omega

mutual

/-- The expression of a predicate is at most as deep as the predicate. -/
theorem Predicate.toExpression_depth_le {dialect : Dialect} :
    ∀ {predicate : Predicate} {e : Expression},
      predicate.toExpression dialect = .ok (some e) → e.depth ≤ predicate.depth
  | .comparison field operator value, e, h => by
    rw [Predicate.toExpression] at h
    split at h
    · rename_i found hfound
      obtain rfl : found = e := by simpa using h
      exact comparisonExpression_depth_le hfound
    · simp at h
  | .fragment fragment, e, h => by
    rw [Predicate.toExpression] at h
    obtain rfl : Expression.ofTemplate "[]" [fragment] = e := by simpa using h
    simp [Expression.depth_ofTemplate, argumentsDepth, Predicate.depth]
  | .group junction predicates, e, h => by
    rw [Predicate.toExpression] at h
    split at h
    · rename_i parts hparts
      have hjoin : joinParts junction parts = some e := by simpa using h
      rw [Predicate.depth]
      exact joinParts_depth_le (fun part hm => predicateExpressions_depth_le hparts hm) hjoin
    · simp at h

/-- The expressions of predicates are at most as deep as the deepest of them. -/
theorem predicateExpressions_depth_le {dialect : Dialect} :
    ∀ {predicates : List Predicate} {parts : List Expression} {part : Expression},
      predicateExpressions dialect predicates = .ok parts → part ∈ parts →
        part.depth ≤ predicatesDepth predicates
  | [], parts, part, h, hm => by
    rw [predicateExpressions] at h
    obtain rfl := Except.ok.inj h
    simp at hm
  | predicate :: rest, parts, part, h, hm => by
    rw [predicateExpressions] at h
    split at h
    · simp at h
    · rename_i first hfirst
      split at h
      · simp at h
      · rename_i following hfollowing
        obtain rfl := Except.ok.inj h
        rw [predicatesDepth]
        rcases List.mem_append.1 hm with hm | hm
        · obtain rfl : first = some part := by simpa using hm
          have := Predicate.toExpression_depth_le hfirst
          omega
        · have := predicateExpressions_depth_le hfollowing hm
          omega

end

/-- A clause of predicates nests each of them in one more expression. -/
theorem predicateClause_depth_le {lead : String} {predicates : List Predicate}
    {dialect : Dialect} {e : Expression}
    (h : Statement.predicateClause lead predicates dialect = .ok e) :
    e.depth ≤ predicatesDepth predicates + 1 := by
  unfold Statement.predicateClause at h
  split at h
  · rename_i parts hparts
    obtain rfl := Except.ok.inj h
    refine optionalClause_depth_le _ _ fun item hm => ?_
    obtain ⟨part, hpart, rfl⟩ := List.mem_map.1 hm
    have := predicateExpressions_depth_le hparts hpart
    simp [ClauseItem.ofPredicate, argumentsDepth, Argument.depth]
    omega
  · simp at h

/-- A set field or value has no operand deeper than the assigned values. -/
theorem assignmentClause_depth_le {statement : Statement} {item : Assignment → ClauseItem}
    {e : Expression}
    (hitem : ∀ assignment, argumentsDepth (item assignment).operands ≤ assignment.value.depth)
    (h : statement.assignmentClause item = .ok e) :
    e.depth ≤ assignmentsDepth statement.assignments := by
  unfold Statement.assignmentClause at h
  split at h
  · simp at h
  · obtain rfl := Except.ok.inj h
    refine listClause_depth_le _ _ fun clauseItem hm => ?_
    obtain ⟨assignment, hassignment, rfl⟩ := List.mem_map.1 hm
    refine Nat.le_trans (hitem assignment) ?_
    generalize statement.assignments = assignments at hassignment
    clear hm
    induction assignments with
    | nil => simp at hassignment
    | cons first rest ih =>
      obtain ⟨field, value⟩ := first
      rw [assignmentsDepth]
      rcases List.mem_cons.1 hassignment with rfl | hassignment
      · exact Nat.le_max_left _ _
      · have := ih hassignment; omega

/-- The sorting is at most as deep as its keys. -/
theorem orderClause_depth_le (statement : Statement) (dialect : Dialect) :
    (statement.orderClause dialect).depth ≤ orderDepth statement.order := by
  unfold Statement.orderClause
  split
  · simp [Expression.depth_ofTemplate, argumentsDepth]
  · refine optionalClause_depth_le _ _ fun clauseItem hm => ?_
    obtain ⟨item, hitem, rfl⟩ := List.mem_map.1 hm
    generalize statement.order = order at hitem
    clear hm
    induction order with
    | nil => simp at hitem
    | cons first rest ih =>
      obtain ⟨field, direction⟩ := first
      rw [orderDepth]
      rcases List.mem_cons.1 hitem with rfl | hitem
      · cases direction <;>
          simp only [ClauseItem.ofOrder, ClauseItem.soft, argumentsDepth] <;> omega
      · have := ih hitem; omega

/-- No clause of a statement is deeper than the statement. -/
theorem Statement.clause_depth_le {statement : Statement} {dialect : Dialect} {clause : Clause}
    {e : Expression} (h : statement.clause dialect clause = .ok e) :
    e.depth ≤ statement.depth := by
  have hfields : ∀ item ∈ statement.fields.map (ClauseItem.ofSource " as "),
      argumentsDepth item.operands ≤ sourcesDepth statement.fields := fun item hm => by
    obtain ⟨source, hsource, rfl⟩ := List.mem_map.1 hm
    exact ofSource_depth_le hsource
  have htables : ∀ item ∈ statement.tables.map (ClauseItem.ofSource " "),
      argumentsDepth item.operands ≤ sourcesDepth statement.tables := fun item hm => by
    obtain ⟨source, hsource, rfl⟩ := List.mem_map.1 hm
    exact ofSource_depth_le hsource
  have hjoins : ∀ item ∈ statement.joins.map ClauseItem.ofJoin,
      argumentsDepth item.operands ≤ joinsDepth statement.joins := fun item hm => by
    obtain ⟨join, hjoin, rfl⟩ := List.mem_map.1 hm
    exact ofJoin_depth_le hjoin
  have hgroups : ∀ item ∈ statement.groups.map ClauseItem.soft,
      argumentsDepth item.operands ≤ argumentsDepth statement.groups := fun item hm => by
    obtain ⟨argument, hargument, rfl⟩ := List.mem_map.1 hm
    simpa [ClauseItem.soft, argumentsDepth] using depth_le_of_mem hargument
  have horder := orderClause_depth_le statement dialect
  have hempty : emptyClause.depth = 0 := by
    simp [emptyClause, Expression.depth_ofTemplate, argumentsDepth]
  obtain ⟨_, _, options, fields, tables, joins, wheres, groups, havings, order, limit,
    assignments⟩ := statement
  rw [Statement.depth]
  cases clause with
  | options =>
    obtain rfl := Except.ok.inj h
    split <;>
      simp only [emptyClause, Expression.depth_ofTemplate, argumentsDepth, Nat.zero_le]
  | fields =>
    obtain rfl := Except.ok.inj h
    split
    · simp only [Expression.depth_ofTemplate, argumentsDepth, Nat.zero_le]
    · have := listClause_depth_le "" ", " hfields
      simp only at this ⊢; omega
  | tables =>
    obtain rfl := Except.ok.inj h
    have := optionalClause_depth_le " from " ", " htables
    simp only at this ⊢; omega
  | tableNoAlias =>
    cases tables with
    | nil => simp [Statement.clause] at h
    | cons table rest =>
      obtain ⟨aliasName, source⟩ := table
      obtain rfl := Except.ok.inj h
      have : (listClause "" "" [ClauseItem.soft source]).depth ≤ source.depth :=
        listClause_depth_le _ _ fun item hm => by
          obtain rfl := List.mem_singleton.1 hm
          simp [ClauseItem.soft, argumentsDepth]
      simp only [sourcesDepth]; omega
  | joins =>
    obtain rfl := Except.ok.inj h
    have := optionalClause_depth_le "" "" hjoins
    simp only at this ⊢; omega
  | wheres => have := predicateClause_depth_le h; simp only at this ⊢; omega
  | groups =>
    obtain rfl := Except.ok.inj h
    have := optionalClause_depth_le " group by " ", " hgroups
    simp only at this ⊢; omega
  | havings => have := predicateClause_depth_le h; simp only at this ⊢; omega
  | order => obtain rfl := Except.ok.inj h; simp only at horder ⊢; omega
  | limit =>
    obtain rfl := Except.ok.inj h
    cases limit with
    | none => simp only [hempty, Nat.zero_le]
    | some limit =>
      simp only [limitClause, Expression.depth, argumentsDepth, namedDepth, Argument.depth,
        Nat.max_self, Nat.zero_le]
  | assignments =>
    have := assignmentClause_depth_le
      (fun assignment => by
        simp [ClauseItem.ofAssignment, argumentsDepth, Argument.text, Argument.depth]) h
    simp only at this ⊢; omega
  | setFields =>
    have := assignmentClause_depth_le
      (fun assignment => by
        simp [ClauseItem.ofSetField, ClauseItem.soft, argumentsDepth, Argument.text,
          Argument.depth]) h
    simp only at this ⊢; omega
  | setValues =>
    have := assignmentClause_depth_le
      (fun assignment => by simp [ClauseItem.ofSetValue, argumentsDepth]) h
    simp only at this ⊢; omega

end ScopeQuery
