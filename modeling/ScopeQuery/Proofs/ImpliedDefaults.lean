import ScopeQuery.Proofs.SimplifiedTrees

/-!
# Implied defaults

The defaults of a selection are the fields that have to equal one value wherever the
selection holds. Collecting them goes into a scope unless it joins several alternatives,
while matching a row leaves out what imposes nothing and stops early. A verdict that is not
false keeps every promise of the tree it is about, so a selected row has all the defaults.
-/

namespace ScopeQuery

/-- Whether an array is compared with as if it were a single value. -/
def Comparand.holdsArray : Comparand → Bool
  | .scalar (.array _) => true
  | _ => false

/-- Whether the comparand of the condition holds an array. -/
def Condition.holdsArray (condition : Condition) : Bool :=
  condition.comparand.any Comparand.holdsArray

/-- Whether a row has the value that is promised for a field; a missing one reads as null. -/
def Row.Keeps (row : Row) (promise : String × Value) : Prop :=
  (row.value promise.1).eq promise.2 = true

/-- A condition that promises a value compares a field of the entity itself with it. -/
theorem Condition.default?_shape {condition : Condition} {promise : String × Value}
    (h : condition.default? = some promise) :
    hasHop promise.1 = false ∧
      condition = ⟨some (.path promise.1), some (.eq, .scalar promise.2)⟩ := by
  obtain ⟨subject, test⟩ := condition
  unfold default? at h
  split at h
  · rename_i path value hsubject htest
    split at h
    · cases h
    · rename_i hfield
      cases h
      obtain rfl : subject = some (.path path) := hsubject
      obtain rfl : test = some (.eq, .scalar value) := htest
      exact ⟨by simpa using hfield, rfl⟩
  · cases h

/-- Nothing but null equals null. -/
theorem Value.eq_null (value : Value) : value.eq .null = value.isNull := by
  cases value <;> rfl

/-- The relation of equality to a value that is no array is equality of values. -/
theorem relationHolds_eq (settings : MatchSettings) (left : Value) {right : Value}
    (h : (Comparand.scalar right).holdsArray = false) :
    relationHolds settings left .eq right = .ok (left.eq right) := by
  cases right with
  | null =>
    have hnull : compareNull .eq left = .ok left.isNull := by
      simp [compareNull, Operator.isOrdering, Operator.isNegative]
    rw [Value.eq_null, ← hnull]
    rfl
  | array items => simp [Comparand.holdsArray] at h
  | _ => rfl

namespace Matcher

/-- Where fields are stored as they are, a condition that promises a value has the verdict
whether the row has it. -/
theorem conditionHolds_default (settings : MatchSettings) (entity : String) (row : Row)
    {condition : Condition} {promise : String × Value}
    (hpromise : condition.default? = some promise) (harray : condition.holdsArray = false) :
    (Matcher.mk settings .passthrough).conditionHolds entity row condition =
      .ok (some ((row.value promise.1).eq promise.2)) := by
  obtain ⟨field, value⟩ := promise
  obtain ⟨hfield, rfl⟩ := Condition.default?_shape hpromise
  have hrelation : relationHolds settings (row.value field) .eq value =
      .ok ((row.value field).eq value) := relationHolds_eq settings _ harray
  have hstored : (Matcher.mk settings .passthrough).storedHolds field
      ⟨some (.path field), some (.eq, .scalar value)⟩ (row.value field)
        ⟨.text field, some .eq, some (.literal value)⟩ =
      .ok ((row.value field).eq value) := by
    rw [storedHolds]
    dsimp only
    rw [Option.getD_some, hrelation]
  have hresolved : (Matcher.mk settings .passthrough).resolvedHolds entity row
      ⟨some (.path field), some (.eq, .scalar value)⟩ =
      .ok ((row.value field).eq value) := by
    rw [resolvedHolds]
    dsimp only
    rw [if_neg (by simpa using hfield)]
    exact hstored
  have hleft : Condition.resolved ⟨some (.path field), some (.eq, .scalar value)⟩ =
      .ok (some ⟨some (.path field), some (.eq, .scalar value)⟩) :=
    Condition.resolved_of_plain rfl (by simp)
  rw [conditionHolds]
  simp only [hleft, hresolved]

section Promises

variable {settings : MatchSettings} {entity : String} {row : Row}

mutual

/-- A row keeps the promises of a tree that has a verdict other than false, or none. -/
theorem treeHolds_defaults (tree : ScopeTree) (harrays : ∀ c ∈ tree.leaves, c.holdsArray = false)
    {verdict : Option Bool}
    (h : (Matcher.mk settings .passthrough).treeHolds entity row tree = .ok verdict)
    (hverdict : verdict ≠ some false) : ∀ promise ∈ tree.defaults, row.Keeps promise := by
  match tree with
  | .condition c =>
    intro promise hmember
    have hpromise : c.default? = some promise := by
      simpa [ScopeTree.defaults] using hmember
    have hholds := conditionHolds_default settings entity row hpromise
      (harrays c (by simp [ScopeTree.leaves]))
    rw [treeHolds, hholds] at h
    have hequal := Except.ok.inj h
    cases heq : (row.value promise.1).eq promise.2 with
    | true => exact heq
    | false =>
      rw [heq] at hequal
      exact absurd hequal.symm hverdict
  | .scope .and children =>
    rw [treeHolds] at h
    rw [ScopeTree.defaults, if_neg (by simp)]
    exact treesHold_defaults harrays h hverdict
  | .scope .or [] =>
    intro promise hmember
    simp [ScopeTree.defaults, ScopeTree.allDefaults] at hmember
  | .scope .or [child] =>
    -- A single alternative is no alternative: the verdict is that of the child.
    rw [treeHolds, treesHold_singleton] at h
    have hdefaults : (ScopeTree.scope .or [child]).defaults = child.defaults := by
      simp [ScopeTree.defaults, ScopeTree.allDefaults]
    rw [hdefaults]
    refine treeHolds_defaults child (fun c hc => harrays c ?_) h hverdict
    simpa [ScopeTree.leaves, ScopeTree.allLeaves] using hc
  | .scope .or (first :: second :: rest) =>
    intro promise hmember
    simp [ScopeTree.defaults] at hmember

/-- A row keeps the promises of trees that all have to hold when they have a verdict other than
false, or none. -/
theorem treesHold_defaults {trees : List ScopeTree}
    (harrays : ∀ c ∈ ScopeTree.allLeaves trees, c.holdsArray = false) {verdict : Option Bool}
    (h : (Matcher.mk settings .passthrough).treesHold entity row .and trees = .ok verdict)
    (hverdict : verdict ≠ some false) :
    ∀ promise ∈ ScopeTree.allDefaults trees, row.Keeps promise := by
  match trees with
  | [] =>
    intro promise hmember
    simp [ScopeTree.allDefaults] at hmember
  | tree :: rest =>
    have hfirstArrays : ∀ c ∈ tree.leaves, c.holdsArray = false :=
      fun c hc => harrays c (by simp [ScopeTree.allLeaves, hc])
    have hrestArrays : ∀ c ∈ ScopeTree.allLeaves rest, c.holdsArray = false :=
      fun c hc => harrays c (by simp [ScopeTree.allLeaves, hc])
    -- The tree has a verdict other than false, and the trees behind it are asked too.
    obtain ⟨first, further, hfirst, hrest, hopen, hfurther⟩ :
        ∃ first further, (Matcher.mk settings .passthrough).treeHolds entity row tree = .ok first ∧
          (Matcher.mk settings .passthrough).treesHold entity row .and rest = .ok further ∧
          first ≠ some false ∧ further ≠ some false := by
      rw [treesHold] at h
      split at h
      · cases h
      · rename_i hfirst
        exact ⟨none, verdict, hfirst, h, by simp, hverdict⟩
      · rename_i result hfirst
        cases result with
        | false =>
          have hsettled : some false = verdict := by simpa using h
          exact absurd hsettled.symm hverdict
        | true =>
          rw [if_neg (by decide)] at h
          split at h
          · cases h
          · rename_i hrest
            exact ⟨some true, none, hfirst, hrest, by simp, by simp⟩
          · rename_i further hrest
            have hfurther : some further = verdict := by simpa using h
            exact ⟨some true, some further, hfirst, hrest, by simp, hfurther ▸ hverdict⟩
    intro promise hmember
    rw [ScopeTree.allDefaults] at hmember
    cases List.mem_append.1 hmember with
    | inl hmine => exact treeHolds_defaults tree hfirstArrays hfirst hopen promise hmine
    | inr hlater => exact treesHold_defaults hrestArrays hrest hfurther promise hlater

end

end Promises

/-- A selected row has every default of the selection. Where fields are stored as they are and no
condition compares with an array as a single value, the row's value under each field that has a
default equals it, a missing one read as null. -/
theorem defaults_of_selectionMatches (settings : MatchSettings) (row : Row) (selection : Selection)
    (harrays : ∀ c ∈ selection.scope.tree.leaves, c.holdsArray = false)
    (hmatches : (Matcher.mk settings .passthrough).selectionMatches row selection = .ok true) :
    ∀ promise ∈ selection.defaults, (row.value promise.1).eq promise.2 = true := by
  rw [selectionMatches, scopeMatches] at hmatches
  cases hholds : (Matcher.mk settings .passthrough).treesHold selection.entity row
      selection.scope.junction selection.scope.children with
  | error error =>
    rw [hholds] at hmatches
    cases hmatches
  | ok verdict =>
    have hverdict : verdict ≠ some false := by
      rintro rfl
      rw [hholds] at hmatches
      cases hmatches
    exact treeHolds_defaults selection.scope.tree harrays hholds hverdict

/-- Open tickets of one queue, of either of two owners; the queue stands in a scope of one
alternative, beside a condition whose comparand declines. -/
def queuedSelection : Selection where
  entity := "ticket"
  children :=
    [.condition ⟨some (.path "status"), some (.eq, .scalar (.string "open"))⟩,
      .scope .or [.scope .and
        [.condition ⟨some (.path "age"), some (.gt, .computed fun _ => none)⟩,
          .condition ⟨some (.path "queue"), some (.eq, .scalar (.string "support"))⟩]],
      .scope .or
        [.condition ⟨some (.path "owner"), some (.eq, .scalar (.string "ann"))⟩,
          .condition ⟨some (.path "owner"), some (.eq, .scalar (.string "bob"))⟩]]

/-- A ticket that is selected is open and in the queue. -/
theorem defaults_of_queued_ticket :
    let row : Row := [("status", .string "open"), ("queue", .string "support"),
      ("owner", .string "bob")]
    queuedSelection.defaults = [("status", .string "open"), ("queue", .string "support")] ∧
      (Matcher.mk {} .passthrough).selectionMatches row queuedSelection = .ok true ∧
      (row.value "status").eq (.string "open") = true ∧
      (row.value "queue").eq (.string "support") = true := by
  intro row
  have hdefaults : queuedSelection.defaults =
      [("status", .string "open"), ("queue", .string "support")] := rfl
  have hmatches : (Matcher.mk {} .passthrough).selectionMatches row queuedSelection = .ok true :=
    rfl
  have harrays : ∀ c ∈ queuedSelection.scope.tree.leaves, c.holdsArray = false := by
    simp [queuedSelection, Selection.scope, Scope.tree, ScopeTree.leaves, ScopeTree.allLeaves,
      Condition.holdsArray, Condition.comparand, Comparand.holdsArray]
  have hkept := defaults_of_selectionMatches {} row queuedSelection harrays hmatches
  rw [hdefaults] at hkept
  exact ⟨hdefaults, hmatches, hkept ("status", .string "open") (by simp),
    hkept ("queue", .string "support") (by simp)⟩

end Matcher

end ScopeQuery
