import ScopeQuery.Proofs.LeafPredicates
import ScopeQuery.Proofs.SimplifiedTrees

/-!
# Predicates over hops

A condition over a hop becomes the sub-query for related rows with what the condition
on the rest of the path becomes there, so what is true of all conditions is shown along the
hops of their paths. Compiling calls a computed comparand where the condition starts, and no
other one: what travels over the hops is the value.
-/

namespace ScopeQuery

/-- The first hop of the path a condition is about, and the path after it. -/
def Condition.splitHop? (condition : Condition) : Option (String × String) :=
  condition.subject.bind Subject.splitHop?

/-- A condition that splits is about a path. -/
theorem Condition.splitHop?_path {condition : Condition} {hop rest : String}
    (h : condition.splitHop? = some (hop, rest)) :
    ∃ path, condition.subject = some (.path path) ∧
      ScopeQuery.splitHop? path = some (hop, rest) := by
  obtain ⟨subject, test⟩ := condition
  match subject with
  | none => simp [splitHop?] at h
  | some (.expression e) => simp [splitHop?, Subject.splitHop?, Subject.path?] at h
  | some (.path path) => exact ⟨path, rfl, h⟩

/-- What is left of a condition makes no further call, on whatever subject. -/
theorem Condition.calls_of_resolved {condition resolved : Condition}
    (h : condition.resolved = .ok (some resolved)) (subject : Subject) :
    (resolved.withSubject subject).calls = [] :=
  calls_of_plain fun operator compute htest =>
    test_ne_computed_of_resolved h operator compute htest

namespace Compiler

section AnyRelationships

variable {R : Type} [Relationships R]

/-- A scope of one condition has the condition's predicate, if it imposes anything. -/
theorem scopePredicates_condition (compiler : Compiler R) (entity : Entity)
    (condition : Condition) :
    compiler.scopePredicates entity ⟨.and, [.condition condition]⟩ =
      (compiler.conditionPredicate entity condition).map Option.toList := by
  have hsimple : (Scope.mk .and [.condition condition]).simplify = .condition condition := rfl
  rw [scopePredicates_other _ _ (by simp [hsimple]), Scope.tree, treePredicate_singleton,
    treePredicate_condition]

/-- What is true of a condition wherever it is true of the condition on the rest of its path is
true of every condition. The cases are those of compiling it. -/
theorem hop_induction (compiler : Compiler R) {motive : Entity → Condition → Prop}
    (error : ∀ entity condition error, condition.resolved = .error error →
      motive entity condition)
    (nothing : ∀ entity condition, condition.resolved = .ok none → motive entity condition)
    (own : ∀ entity condition resolved, condition.resolved = .ok (some resolved) →
      resolved.splitHop? = none → motive entity condition)
    (astray : ∀ entity condition resolved hop rest error,
      condition.resolved = .ok (some resolved) → resolved.splitHop? = some (hop, rest) →
      compiler.follow entity hop = .error error → motive entity condition)
    (count : ∀ entity condition resolved hop related,
      condition.resolved = .ok (some resolved) →
      resolved.splitHop? = some (hop, countSegment) →
      compiler.follow entity hop = .ok related → motive entity condition)
    (hop : ∀ entity condition resolved hop rest related,
      condition.resolved = .ok (some resolved) → resolved.splitHop? = some (hop, rest) →
      rest ≠ countSegment → compiler.follow entity hop = .ok related →
      motive related.entity (resolved.withSubject (.path rest)) → motive entity condition)
    (entity : Entity) (condition : Condition) : motive entity condition := by
  match hresolved : condition.resolved with
  | .error refused => exact error entity condition refused hresolved
  | .ok none => exact nothing entity condition hresolved
  | .ok (some resolved) =>
    match hsplit : resolved.splitHop? with
    | none => exact own entity condition resolved hresolved hsplit
    | some (first, rest) =>
      match hfollow : compiler.follow entity first with
      | .error refused =>
        exact astray entity condition resolved first rest refused hresolved hsplit hfollow
      | .ok related =>
        by_cases hrest : rest = countSegment
        · subst hrest
          exact count entity condition resolved first related hresolved hsplit hfollow
        · exact hop entity condition resolved first rest related hresolved hsplit hrest hfollow
            (hop_induction compiler error nothing own astray count hop related.entity
              (resolved.withSubject (.path rest)))
termination_by condition.reach (compiler.rank entity)
decreasing_by
  obtain ⟨path, hsubject, hpath⟩ := Condition.splitHop?_path hsplit
  have honward := compiler.onward_le entity hpath
  rw [onward, hfollow] at honward
  rw [← Condition.reach_of_resolved hresolved, Condition.reach, Condition.reach,
    Condition.withSubject, hsubject]
  dsimp only at honward ⊢
  omega

end AnyRelationships

section Calls

variable {R : Type} [Relationships R] {compiler : Compiler R} {entity : Entity}
  {condition : Condition}

/-- A condition that is not left for compiling makes the calls of resolving it. -/
theorem notedPredicate_calls_of_unresolved
    (h : ∀ resolved, condition.resolved ≠ .ok (some resolved)) :
    (compiler.notedPredicate entity condition).calls = condition.calls := by
  rw [notedPredicate]
  split
  · rename_i hfound
    rw [Condition.calls, hfound]
  · rename_i hfound
    rw [Condition.calls, hfound]
  · rename_i found hfound
    exact absurd (congrArg Noted.result hfound) (h found)

/-- The calls of compiling what is left of a condition come behind those of resolving it. -/
theorem notedPredicate_calls_of_resolved {resolved : Condition}
    (h : condition.resolved = .ok (some resolved)) :
    (compiler.notedPredicate entity condition).calls =
      condition.calls ++ (compiler.notedResolved entity resolved).calls := by
  rw [Condition.resolved] at h
  rw [notedPredicate]
  split
  · simp_all
  · simp_all
  · rename_i calls found hfound
    rw [Condition.calls, hfound]
    rw [hfound] at h
    obtain rfl := Option.some.inj (Except.ok.inj h)
    rfl

/-- A condition that leads over no hop is compiled without a call. -/
theorem notedResolved_calls_of_own (hsplit : condition.splitHop? = none) :
    (compiler.notedResolved entity condition).calls = [] := by
  rw [notedResolved]
  split
  · rfl
  · rfl
  · rename_i path hsubject
    have hpath : splitHop? path = none := by
      simpa [Condition.splitHop?, hsubject, Subject.splitHop?, Subject.path?] using hsplit
    split
    · rfl
    · simp_all

/-- A condition over a hop makes the calls of going over it. -/
theorem notedResolved_calls_of_hop {hop rest : String}
    (hsplit : condition.splitHop? = some (hop, rest)) :
    (compiler.notedResolved entity condition).calls =
      (compiler.notedHop entity condition hop rest).calls := by
  obtain ⟨path, hsubject, hpath⟩ := Condition.splitHop?_path hsplit
  rw [notedResolved]
  split
  · simp_all
  · simp_all
  · split
    · simp_all
    · simp_all

/-- A scope of one condition makes the calls of the condition. -/
theorem notedScope_calls_condition (compiler : Compiler R) (entity : Entity)
    (condition : Condition) :
    (compiler.notedScope entity ⟨.and, [.condition condition]⟩).calls =
      (compiler.notedPredicate entity condition).calls := by
  have hsimple : (Scope.mk .and [.condition condition]).simplify = .condition condition := rfl
  rw [notedScope]
  split
  · simp_all
  · rw [hsimple, notedTree]
    rfl

end Calls

variable {compiler : Compiler} {entity : Entity} {condition : Condition} {hop rest : String}
  {related : RelatedRows}

/-- A condition over a hop asks for a related row that satisfies the condition on the
rest of the path. -/
theorem hopPredicate_of_rest (hfollow : compiler.follow entity hop = .ok related)
    (hrest : rest ≠ countSegment) :
    compiler.hopPredicate entity condition hop rest =
      (compiler.conditionPredicate related.entity (condition.withSubject (.path rest))).map
        fun predicate => (related.existsWith predicate.toList).predicate := by
  have hscope : (related.add (.condition (condition.withSubject (.path rest)))).selection.scope =
      ⟨.and, [.condition (condition.withSubject (.path rest))]⟩ := by
    simp [RelatedRows.add, Selection.add, Selection.scope, follow_children hfollow]
  rw [hopPredicate_of_exists hfollow hrest, existsFragment_eq, hscope, scopePredicates_condition]
  dsimp only [RelatedRows.add]
  cases compiler.conditionPredicate related.entity (condition.withSubject (.path rest)) <;> rfl

/-- Rows a hop has just led to are counted, or asked for, without a call. -/
theorem notedCount_calls (hfollow : compiler.follow entity hop = .ok related)
    (condition : Condition) : (compiler.notedCount related condition).calls = [] := by
  have hscope : (compiler.notedScope related.entity related.selection.scope).calls = [] := by
    have hsimple : related.selection.scope.simplify = .scope .and [] := by
      rw [Selection.scope, follow_children hfollow]
      rfl
    rw [notedScope]
    split
    · rename_i children hchildren
      obtain rfl : children = [] := by simpa using hchildren.symm.trans hsimple
      rw [notedTrees, Noted.of_calls]
    · rename_i hother
      exact absurd hsimple (hother [])
  have hexists : (compiler.notedExists related).calls = [] := by
    rw [notedExists, Noted.map_calls, hscope]
  have hcounting : (compiler.notedCounting related).calls = [] := by
    rw [notedCounting, Noted.map_calls, hscope]
  rw [notedCount]
  repeat' split
  all_goals simp [hexists, hcounting]

/-- Going over a hop makes the calls of the condition on the rest of the path. -/
theorem notedHop_calls_of_rest (hfollow : compiler.follow entity hop = .ok related)
    (hrest : rest ≠ countSegment) :
    (compiler.notedHop entity condition hop rest).calls =
      (compiler.notedPredicate related.entity (condition.withSubject (.path rest))).calls := by
  have hscope : (related.add (.condition (condition.withSubject (.path rest)))).selection.scope =
      ⟨.and, [.condition (condition.withSubject (.path rest))]⟩ := by
    simp [RelatedRows.add, Selection.add, Selection.scope, follow_children hfollow]
  rw [notedHop]
  split
  · simp_all
  · rename_i found hfound
    rw [hfollow] at hfound
    obtain rfl := Except.ok.inj hfound
    rw [if_neg hrest, Noted.map_calls, notedExists, Noted.map_calls, hscope,
      notedScope_calls_condition]
    rfl

/-- Compiling a condition calls its computed comparand once, where the condition starts,
and no other one. -/
theorem notedPredicate_calls (compiler : Compiler) (entity : Entity) (condition : Condition) :
    (compiler.notedPredicate entity condition).calls = condition.calls := by
  induction entity, condition using compiler.hop_induction with
  | error entity condition error hresolved =>
    exact notedPredicate_calls_of_unresolved (by simp [hresolved])
  | nothing entity condition hresolved =>
    exact notedPredicate_calls_of_unresolved (by simp [hresolved])
  | own entity condition resolved hresolved hsplit =>
    rw [notedPredicate_calls_of_resolved hresolved, notedResolved_calls_of_own hsplit,
      List.append_nil]
  | astray entity condition resolved hop rest error hresolved hsplit hfollow =>
    have hhop : (compiler.notedHop entity resolved hop rest).calls = [] := by
      rw [notedHop]
      split
      · rfl
      · simp_all
    rw [notedPredicate_calls_of_resolved hresolved, notedResolved_calls_of_hop hsplit, hhop,
      List.append_nil]
  | count entity condition resolved hop related hresolved hsplit hfollow =>
    have hhop : (compiler.notedHop entity resolved hop countSegment).calls = [] := by
      rw [notedHop]
      split
      · rfl
      · rename_i found hfound
        rw [if_pos rfl]
        exact notedCount_calls hfound resolved
    rw [notedPredicate_calls_of_resolved hresolved, notedResolved_calls_of_hop hsplit, hhop,
      List.append_nil]
  | hop entity condition resolved hop rest related hresolved hsplit hrest hfollow ih =>
    rw [notedPredicate_calls_of_resolved hresolved, notedResolved_calls_of_hop hsplit,
      notedHop_calls_of_rest hfollow hrest, ih, Condition.calls_of_resolved hresolved,
      List.append_nil]

end Compiler

end ScopeQuery
