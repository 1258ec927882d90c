import ScopeQuery.Compile.Scope

/-!
# Predicates of conditions

What a condition compiles to, step by step: its comparand is resolved, then its
subject decides between an expression, a field of the entity and a hop. The result
is a comparison or a fragment, wherever the path leads. Groups come from scopes
alone.
-/

namespace ScopeQuery

/-- What a result that is mapped comes from. -/
theorem exists_ok_of_map {ε α β : Type} {f : α → β} {result : Except ε α} {b : β}
    (h : result.map f = .ok b) : ∃ a, result = .ok a ∧ f a = b := by
  cases result with
  | error error => cases h
  | ok a => exact ⟨a, rfl, Except.ok.inj h⟩

/-- What a result that another one follows comes from. -/
theorem exists_ok_of_bind {ε α β : Type} {next : α → Except ε β} {result : Except ε α} {b : β}
    (h : result.bind next = .ok b) : ∃ a, result = .ok a ∧ next a = .ok b := by
  cases result with
  | error error => cases h
  | ok a => exact ⟨a, rfl, h⟩

/-- Whether the predicate joins further predicates. -/
def Predicate.isGroup : Predicate → Bool
  | .group _ _ => true
  | _ => false

/-- A comparison is no group. -/
theorem comparisonPredicate_not_group (field : Argument) (operator : Option Operator)
    (value : Argument) : (comparisonPredicate field operator value).isGroup = false := by
  unfold comparisonPredicate
  split <;> rfl

/-- A condition on an expression becomes no group. -/
theorem expressionPredicate_not_group {e : Expression} {condition : Condition}
    {predicate : Predicate} (h : expressionPredicate e condition = .ok predicate) :
    predicate.isGroup = false := by
  unfold expressionPredicate at h
  split at h
  · obtain rfl := Except.ok.inj h
    rfl
  · split at h
    · obtain rfl := Except.ok.inj h
      exact comparisonPredicate_not_group _ _ _
    · simp at h

namespace Compiler

variable {R : Type} {compiler : Compiler R} {entity : Entity} {condition : Condition}
  {predicate : Predicate}

/-- A condition on the entity's own field becomes no group. -/
theorem fieldPredicate_not_group {field : String}
    (h : compiler.fieldPredicate entity field condition = .ok predicate) :
    predicate.isGroup = false := by
  unfold fieldPredicate at h
  split at h
  · simp at h
  · split at h
    · simp at h
    · dsimp only at h
      split at h
      · obtain rfl := Except.ok.inj h
        rfl
      · obtain rfl := Except.ok.inj h
        exact comparisonPredicate_not_group _ _ _

variable [Relationships R]

/-- A condition that cannot be resolved has no predicate. -/
theorem conditionPredicate_of_error {error : QueryError}
    (h : condition.resolved = .error error) :
    compiler.conditionPredicate entity condition = .error (.query error) := by
  rw [Condition.resolved] at h
  rw [conditionPredicate, notedPredicate]
  split <;> simp_all

/-- A condition that imposes nothing becomes no predicate. -/
theorem conditionPredicate_of_nothing (h : condition.resolved = .ok none) :
    compiler.conditionPredicate entity condition = .ok none := by
  rw [Condition.resolved] at h
  rw [conditionPredicate, notedPredicate]
  split <;> simp_all

/-- A condition becomes what is left of it when its comparand is resolved. -/
theorem conditionPredicate_of_resolved {resolved : Condition}
    (h : condition.resolved = .ok (some resolved)) :
    compiler.conditionPredicate entity condition =
      (compiler.resolvedPredicate entity resolved).map some := by
  rw [Condition.resolved] at h
  rw [conditionPredicate, notedPredicate]
  split
  · simp_all
  · simp_all
  · rename_i calls found hfound
    rw [hfound] at h
    obtain rfl := Option.some.inj (Except.ok.inj h)
    rfl

/-- A condition about nothing has no predicate. -/
theorem resolvedPredicate_of_none (hsubject : condition.subject = none) :
    compiler.resolvedPredicate entity condition =
      .error (.query (.unfitValue (.missingSubject condition.describe))) := by
  rw [resolvedPredicate, notedResolved]
  split <;> simp_all

/-- A condition on an expression is compiled with the expression. -/
theorem resolvedPredicate_of_expression {e : Expression}
    (hsubject : condition.subject = some (.expression e)) :
    compiler.resolvedPredicate entity condition = expressionPredicate e condition := by
  rw [resolvedPredicate, notedResolved]
  split <;> simp_all

/-- A condition on a path without hops is one on the entity's own field. -/
theorem resolvedPredicate_of_field {path : String}
    (hsubject : condition.subject = some (.path path)) (hsplit : splitHop? path = none) :
    compiler.resolvedPredicate entity condition =
      compiler.fieldPredicate entity path condition := by
  rw [resolvedPredicate, notedResolved]
  split
  · simp_all
  · simp_all
  · rename_i found hfound
    rw [hsubject] at hfound
    obtain rfl : path = found := by simpa using hfound
    split
    · rfl
    · simp_all

/-- A condition on a path with hops is one over the first of them. -/
theorem resolvedPredicate_of_hop {path hop rest : String}
    (hsubject : condition.subject = some (.path path))
    (hsplit : splitHop? path = some (hop, rest)) :
    compiler.resolvedPredicate entity condition =
      compiler.hopPredicate entity condition hop rest := by
  rw [resolvedPredicate, notedResolved]
  split
  · simp_all
  · simp_all
  · rename_i found hfound
    rw [hsubject] at hfound
    obtain rfl : path = found := by simpa using hfound
    split
    · simp_all
    · rename_i hop' rest' hfoundSplit
      rw [hsplit] at hfoundSplit
      obtain ⟨rfl, rfl⟩ : hop = hop' ∧ rest = rest' := by simpa using hfoundSplit
      rfl

/-- A hop that leads nowhere has no predicate. -/
theorem hopPredicate_of_error {hop rest : String} {error : CompileError}
    (hfollow : compiler.follow entity hop = .error error) :
    compiler.hopPredicate entity condition hop rest = .error error := by
  rw [hopPredicate, notedHop]
  split <;> simp_all

/-- Counting the rows of a hop compiles no further condition. -/
theorem hopPredicate_of_count {hop : String} {related : RelatedRows}
    (hfollow : compiler.follow entity hop = .ok related) :
    compiler.hopPredicate entity condition hop countSegment =
      compiler.countPredicate related condition := by
  rw [hopPredicate, notedHop]
  split
  · simp_all
  · rename_i found hfound
    rw [hfollow] at hfound
    obtain rfl := Except.ok.inj hfound
    rw [if_pos rfl]
    rfl

/-- A condition over a hop imposes the rest of its path on the related rows and asks for one. -/
theorem hopPredicate_of_exists {hop rest : String} {related : RelatedRows}
    (hfollow : compiler.follow entity hop = .ok related) (hrest : rest ≠ countSegment) :
    compiler.hopPredicate entity condition hop rest =
      (compiler.existsFragment (related.add (.condition (condition.withSubject (.path rest))))).map
        Expression.predicate := by
  rw [hopPredicate, notedHop]
  split
  · simp_all
  · rename_i found hfound
    rw [hfollow] at hfound
    obtain rfl := Except.ok.inj hfound
    rw [if_neg hrest]
    rfl

/-- The fragment that asks for a related row has the predicates of the row's selection. -/
theorem existsFragment_eq (compiler : Compiler R) (related : RelatedRows) :
    compiler.existsFragment related =
      (compiler.scopePredicates related.entity related.selection.scope).map
        related.existsWith := by
  rw [existsFragment, notedExists]
  rfl

/-- The fragment that counts the related rows has the predicates of their selection. -/
theorem countFragment_eq (compiler : Compiler R) (related : RelatedRows) :
    compiler.countFragment related =
      (compiler.scopePredicates related.entity related.selection.scope).map
        related.countWith := by
  rw [countFragment, notedCounting]
  rfl

/-- A condition on the count of related rows becomes what asks for one of them, what asks for
none, or a comparison of their number. -/
theorem countPredicate_cases {related : RelatedRows}
    (h : compiler.countPredicate related condition = .ok predicate) :
    (∃ e, compiler.existsFragment related = .ok e ∧
      (predicate = e.predicate ∨
        predicate = (Expression.ofTemplate "not []" [.expression e]).predicate)) ∨
    ∃ operator comparand value e, condition.test = some (operator, comparand) ∧
      plainArgument comparand = .ok value ∧ compiler.countFragment related = .ok e ∧
      predicate = comparisonPredicate (.expression e) (some operator) value := by
  rw [countPredicate, notedCount] at h
  have hasked {f : Expression → Predicate}
      (hf : ((compiler.notedExists related).map f).result = .ok predicate) :
      ∃ e, compiler.existsFragment related = .ok e ∧ f e = predicate := by
    rw [Noted.map_result] at hf
    exact exists_ok_of_map hf
  split at h
  · obtain ⟨e, he, rfl⟩ := hasked h
    exact .inl ⟨e, he, .inl rfl⟩
  · rename_i operator comparand htest
    split at h
    · obtain ⟨e, he, rfl⟩ := hasked h
      exact .inl ⟨e, he, .inl rfl⟩
    · obtain ⟨e, he, rfl⟩ := hasked h
      exact .inl ⟨e, he, .inr rfl⟩
    · split at h
      · cases h
      · rename_i value hvalue
        rw [Noted.map_result] at h
        obtain ⟨e, he, rfl⟩ := exists_ok_of_map h
        exact .inr ⟨operator, comparand, value, e, htest, hvalue, he, rfl⟩

/-- A condition on the count of related rows becomes no group. -/
theorem countPredicate_not_group {related : RelatedRows}
    (h : compiler.countPredicate related condition = .ok predicate) :
    predicate.isGroup = false := by
  obtain ⟨e, -, rfl | rfl⟩ | ⟨operator, comparand, value, e, -, -, -, rfl⟩ :=
    countPredicate_cases h
  · rfl
  · rfl
  · exact comparisonPredicate_not_group _ _ _

/-- A condition whose path leads over a hop becomes no group. -/
theorem hopPredicate_not_group {hop rest : String}
    (h : compiler.hopPredicate entity condition hop rest = .ok predicate) :
    predicate.isGroup = false := by
  cases hfollow : compiler.follow entity hop with
  | error error => simp [hopPredicate_of_error hfollow] at h
  | ok related =>
    by_cases hrest : rest = countSegment
    · subst hrest
      rw [hopPredicate_of_count hfollow] at h
      exact countPredicate_not_group h
    · rw [hopPredicate_of_exists hfollow hrest] at h
      obtain ⟨e, -, rfl⟩ := exists_ok_of_map h
      rfl

/-- A condition whose comparand is resolved becomes no group. -/
theorem resolvedPredicate_not_group
    (h : compiler.resolvedPredicate entity condition = .ok predicate) :
    predicate.isGroup = false := by
  cases hsubject : condition.subject with
  | none => simp [resolvedPredicate_of_none hsubject] at h
  | some subject =>
    cases subject with
    | expression e =>
      rw [resolvedPredicate_of_expression hsubject] at h
      exact expressionPredicate_not_group h
    | path path =>
      cases hsplit : splitHop? path with
      | none =>
        rw [resolvedPredicate_of_field hsubject hsplit] at h
        exact fieldPredicate_not_group h
      | some pair =>
        rw [resolvedPredicate_of_hop hsubject hsplit] at h
        exact hopPredicate_not_group h

/-- No condition becomes a group. -/
theorem conditionPredicate_not_group
    (h : compiler.conditionPredicate entity condition = .ok (some predicate)) :
    predicate.isGroup = false := by
  cases hresolved : condition.resolved with
  | error error => simp [conditionPredicate_of_error hresolved] at h
  | ok resolved =>
    cases resolved with
    | none => simp [conditionPredicate_of_nothing hresolved] at h
    | some resolved =>
      rw [conditionPredicate_of_resolved hresolved] at h
      cases hfound : compiler.resolvedPredicate entity resolved with
      | error error => simp [hfound, Except.map] at h
      | ok found =>
        obtain rfl : found = predicate := by simpa [hfound, Except.map] using h
        exact resolvedPredicate_not_group hfound

end Compiler

end ScopeQuery
