import ScopeQuery.Proofs.DualPredicates
import ScopeQuery.Proofs.HopPredicates
import ScopeQuery.Proofs.NegatedScopes

/-!
# Predicates of opposite conditions

A condition and its opposite compile to dual predicates. Both are stored alike but for the
operator, and the sub-queries of the hops in front are the same for both, since they come from
the path alone. A computed comparand has to give both the same value, and a count of rows is
left out, because its opposite may change from a sub-query that has rows to one that has none.
-/

namespace ScopeQuery

/-- Whether the last segment of a path counts the rows of the hop in front of it. -/
def countsRows (path : String) : Bool :=
  (hopSeparator :: countSegment.toList).isSuffixOf path.toList

/-- Whether the condition is on a count of related rows. -/
def Condition.countsRows (condition : Condition) : Bool :=
  match condition.subject with
  | some (.path path) => ScopeQuery.countsRows path
  | _ => false

/-- A computed comparand gives the opposite condition the same value, or none to both. -/
def Condition.Steady (condition : Condition) : Prop :=
  ∀ operator compute, condition.test = some (operator, .computed compute) →
    compute ⟨condition.subject, some operator.negate⟩ = compute condition.head

/-- The path after the first hop ends the path. -/
theorem splitHop?_isSuffix {path hop rest : String} (h : splitHop? path = some (hop, rest)) :
    hopSeparator :: rest.toList <:+ path.toList := by
  unfold splitHop? at h
  split at h
  · rename_i before after hsplit
    obtain ⟨-, rfl⟩ : String.ofList before = hop ∧ String.ofList after = rest := by simpa using h
    rw [splitFirst?_eq_some hsplit, String.toList_ofList]
    exact List.suffix_append before _
  · simp at h

/-- Behind the first hop of a path that counts no rows there is no count, at once or later. -/
theorem countsRows_of_splitHop? {path hop rest : String} (hcounts : countsRows path = false)
    (h : splitHop? path = some (hop, rest)) : rest ≠ countSegment ∧ countsRows rest = false := by
  have hsuffix := splitHop?_isSuffix h
  have hpath : ¬hopSeparator :: countSegment.toList <:+ path.toList :=
    fun hcount => Bool.eq_false_iff.1 hcounts (List.isSuffixOf_iff_suffix.2 hcount)
  refine ⟨?_, Bool.eq_false_iff.2 fun hrest => ?_⟩
  · rintro rfl
    exact hpath hsuffix
  · have hcount := List.isSuffixOf_iff_suffix.1 hrest
    exact hpath ((hcount.trans (List.suffix_cons _ _)).trans hsuffix)

/-! ### Pairs of evaluations -/

/-- Evaluations that fail together, or give what is related. -/
def Paired {α β : Type} (related : α → β → Prop) :
    Except CompileError α → Except CompileError β → Prop
  | .error _, .error _ => True
  | .ok left, .ok right => related left right
  | _, _ => False

/-- Evaluations stay paired when a step of each keeps what they give related. -/
theorem Paired.map {α β γ δ : Type} {related : α → β → Prop} {further : γ → δ → Prop}
    {left : Except CompileError α} {right : Except CompileError β} (h : Paired related left right)
    {f : α → γ} {g : β → δ} (hstep : ∀ a b, related a b → further (f a) (g b)) :
    Paired further (left.map f) (right.map g) := by
  match left, right, h with
  | .error _, .error _, _ => trivial
  | .ok a, .ok b, hab => exact hstep a b hab

/-- What each of two paired evaluations is paired with is paired. -/
theorem Paired.transfer {α β γ δ : Type} {related : α → β → Prop} {left : α → γ → Prop}
    {right : β → δ → Prop} {further : γ → δ → Prop} {a : Except CompileError α}
    {b : Except CompileError β} {c : Except CompileError γ} {d : Except CompileError δ}
    (h : Paired related a b) (hleft : Paired left a c) (hright : Paired right b d)
    (hstep : ∀ x y z w, related x y → left x z → right y w → further z w) :
    Paired further c d := by
  match a, b, h with
  | .error _, .error _, _ =>
    match c, d, hleft, hright with
    | .error _, .error _, _, _ => trivial
  | .ok x, .ok y, hxy =>
    match c, d, hleft, hright with
    | .ok z, .ok w, hxz, hyw => exact hstep x y z w hxy hxz hyw

/-! ### Opposite leaves -/

/-- A value fits an operator when it fits the opposite one. -/
theorem Comparand.check_negate (operator : Operator) (comparand : Comparand) :
    (∃ error other, check operator comparand = .error error ∧
      check operator.negate comparand = .error other) ∨
    check operator comparand = .ok () ∧ check operator.negate comparand = .ok () := by
  have hlist : operator.negate.acceptsList = operator.acceptsList := by cases operator <;> rfl
  cases comparand with
  | list items =>
    simp only [check, hlist]
    cases operator.acceptsList with
    | false => exact .inl ⟨_, _, rfl, rfl⟩
    | true =>
      cases items.any isNested with
      | true => exact .inl ⟨_, _, rfl, rfl⟩
      | false => exact .inr ⟨rfl, rfl⟩
  | scalar value =>
    cases value with
    | object fields => exact .inl ⟨_, _, rfl, rfl⟩
    | _ => exact .inr ⟨rfl, rfl⟩
  | _ => exact .inr ⟨rfl, rfl⟩

/-- Of a condition and its opposite neither has a fitting value, or neither imposes anything,
or both compare with one comparand that is not computed. -/
theorem Condition.resolved_negate {subject : Option Subject} {operator : Operator}
    {comparand : Comparand} (hsteady : Steady ⟨subject, some (operator, comparand)⟩) :
    (∃ error other, resolved ⟨subject, some (operator, comparand)⟩ = .error error ∧
      resolved ⟨subject, some (operator.negate, comparand)⟩ = .error other) ∨
    (resolved ⟨subject, some (operator, comparand)⟩ = .ok none ∧
      resolved ⟨subject, some (operator.negate, comparand)⟩ = .ok none) ∨
    ∃ given : Comparand, (∀ compute, given ≠ .computed compute) ∧
      resolved ⟨subject, some (operator, comparand)⟩ =
        .ok (some ⟨subject, some (operator, given)⟩) ∧
      resolved ⟨subject, some (operator.negate, comparand)⟩ =
        .ok (some ⟨subject, some (operator.negate, given)⟩) := by
  cases comparand with
  | computed compute =>
    have hsame : compute ⟨subject, some operator.negate⟩ = compute ⟨subject, some operator⟩ :=
      hsteady operator compute rfl
    have hgiven (other : Operator) : resolved ⟨subject, some (other, .computed compute)⟩ =
        withComputed ⟨subject, some (other, .computed compute)⟩ other
          (compute ⟨subject, some other⟩) := resolved_of_computed rfl
    rw [hgiven, hgiven, hsame]
    cases hvalue : compute ⟨subject, some operator⟩ with
    | none => exact .inr (.inl ⟨rfl, rfl⟩)
    | some value =>
      dsimp only [withComputed]
      obtain ⟨error, other, hrefused, hopposite⟩ | ⟨hfits, hopposite⟩ :=
        Comparand.check_negate operator (.ofValue value)
      · rw [hrefused, hopposite]
        exact .inl ⟨error, other, rfl, rfl⟩
      · rw [hfits, hopposite]
        exact .inr (.inr ⟨_, Comparand.ofValue_ne_computed value, rfl, rfl⟩)
  | null | scalar _ | list _ | expression _ =>
    exact .inr (.inr ⟨_, fun _ => by simp, resolved_of_comparand (by simp),
      resolved_of_comparand (by simp)⟩)

namespace Compiler

variable {compiler : Compiler} {entity : Entity} {operator : Operator} {comparand : Comparand}

/-- Opposite conditions on a field are stored as opposite comparisons. -/
theorem fieldPredicate_negate (hcodecs : compiler.codecs.Shipped) (field : String)
    (subject : Option Subject) :
    Paired Predicate.Dual
      (compiler.fieldPredicate entity field ⟨subject, some (operator, comparand)⟩)
      (compiler.fieldPredicate entity field ⟨subject, some (operator.negate, comparand)⟩) := by
  unfold fieldPredicate
  cases hcodec : compiler.codecs entity.name field with
  | error error => trivial
  | ok codec =>
    have hshipped := hcodecs entity.name field codec hcodec
    have hmirrored := hshipped.store_mirrored (some operator) (some operator.negate)
      (some comparand)
    dsimp only [Condition.operator, Condition.comparand, Option.map_some]
    cases hstored : codec.store (some operator) (some comparand) with
    | error error =>
      obtain ⟨other, hother⟩ := hmirrored.error_iff.2 ⟨error, hstored⟩
      rw [hother]
      trivial
    | ok stored =>
      rw [hmirrored.answer hstored]
      obtain ⟨hoperator, hvalue⟩ := hshipped.store_shape hstored
      obtain ⟨value, hsome⟩ := Option.isSome_iff_exists.1 hvalue
      dsimp only
      rw [hsome, hoperator]
      exact Predicate.dual_comparison _ operator value

/-- Opposite conditions on an expression are opposite comparisons. -/
theorem expressionPredicate_negate (e : Expression) (subject : Option Subject) :
    Paired Predicate.Dual (expressionPredicate e ⟨subject, some (operator, comparand)⟩)
      (expressionPredicate e ⟨subject, some (operator.negate, comparand)⟩) := by
  unfold expressionPredicate
  dsimp only
  cases plainArgument comparand with
  | error error => trivial
  | ok value => exact Predicate.dual_comparison _ operator value

/-- A condition over a hop becomes the sub-query for the rest of its path. -/
theorem hopPredicate_of_link {subject : Option Subject} {hop rest : String} {link : Link}
    (hfollow : compiler.follow entity hop = .ok (link.rows entity hop))
    (hrest : rest ≠ countSegment) (hplain : ∀ compute, comparand ≠ .computed compute) :
    compiler.hopPredicate entity ⟨subject, some (operator, comparand)⟩ hop rest =
      (compiler.resolvedPredicate (entity.reached hop link.table)
        ⟨some (.path rest), some (operator, comparand)⟩).map
          (existsPredicate entity.reference (Entity.hopAlias hop (entity.depth + 1)) link) := by
  have hentity : (link.rows entity hop).entity = entity.reached hop link.table := rfl
  rw [hopPredicate_of_rest hfollow hrest, Condition.withSubject, hentity,
    conditionPredicate_of_resolved (Condition.resolved_of_comparand hplain)]
  cases compiler.resolvedPredicate (entity.reached hop link.table)
    ⟨some (.path rest), some (operator, comparand)⟩ <;> rfl

/-- Opposite conditions on a path to a field compile to dual predicates: the sub-queries of
the hops stay, and only the comparison in the innermost one is turned round. -/
theorem pathPredicate_negate (hcodecs : compiler.codecs.Shipped)
    (hplain : ∀ compute, comparand ≠ .computed compute) (entity : Entity) (path : String)
    (hcounts : countsRows path = false) :
    Paired Predicate.Dual
      (compiler.resolvedPredicate entity ⟨some (.path path), some (operator, comparand)⟩)
      (compiler.resolvedPredicate entity
        ⟨some (.path path), some (operator.negate, comparand)⟩) := by
  cases hsplit : splitHop? path with
  | none =>
    rw [resolvedPredicate_of_field rfl hsplit, resolvedPredicate_of_field rfl hsplit]
    exact fieldPredicate_negate hcodecs path _
  | some pair =>
    obtain ⟨hop, rest⟩ := pair
    obtain ⟨hrest, hcountsRest⟩ := countsRows_of_splitHop? hcounts hsplit
    rw [resolvedPredicate_of_hop rfl hsplit, resolvedPredicate_of_hop rfl hsplit]
    cases hfollow : compiler.follow entity hop with
    | error error =>
      rw [hopPredicate_of_error hfollow, hopPredicate_of_error hfollow]
      trivial
    | ok related =>
      obtain ⟨link, rfl⟩ := exists_link_of_follow hfollow
      have hinner := pathPredicate_negate hcodecs hplain (entity.reached hop link.table) rest
        hcountsRest
      rw [hopPredicate_of_link hfollow hrest hplain, hopPredicate_of_link hfollow hrest hplain]
      exact hinner.map fun inner opposite hdual => hdual.exists _ _ link
termination_by path.toList.length
decreasing_by exact splitHop?_length hsplit

/-- Opposite conditions whose comparands are resolved compile to dual predicates. -/
theorem resolvedPredicate_negate (hcodecs : compiler.codecs.Shipped)
    (hplain : ∀ compute, comparand ≠ .computed compute) (entity : Entity)
    (subject : Option Subject)
    (hcounts : Condition.countsRows ⟨subject, some (operator, comparand)⟩ = false) :
    Paired Predicate.Dual
      (compiler.resolvedPredicate entity ⟨subject, some (operator, comparand)⟩)
      (compiler.resolvedPredicate entity ⟨subject, some (operator.negate, comparand)⟩) := by
  match subject with
  | none =>
    rw [resolvedPredicate_of_none rfl, resolvedPredicate_of_none rfl]
    trivial
  | some (.expression e) =>
    rw [resolvedPredicate_of_expression rfl, resolvedPredicate_of_expression rfl]
    exact expressionPredicate_negate e _
  | some (.path path) => exact pathPredicate_negate hcodecs hplain entity path hcounts

/-- A condition and its opposite compile to dual predicates, or both to none, or both fail. -/
theorem conditionPredicate_negate (hcodecs : compiler.codecs.Shipped) (entity : Entity)
    {condition negated : Condition} (hnegate : condition.negate = .ok negated)
    (hsteady : condition.Steady) (hcounts : condition.countsRows = false) :
    Paired (Option.Rel Predicate.Dual) (compiler.conditionPredicate entity condition)
      (compiler.conditionPredicate entity negated) := by
  obtain ⟨hempty, rfl⟩ | ⟨operator, comparand, htest, rfl⟩ := Condition.negate_shape hnegate
  · have hnone : compiler.conditionPredicate entity negated = .ok none := by
      rw [conditionPredicate_eq_none_iff, Condition.imposes_eq_false_iff]
      exact .inl hempty
    rw [hnone]
    exact .none
  · obtain ⟨subject, test⟩ := condition
    obtain rfl : test = some (operator, comparand) := htest
    obtain ⟨error, other, herror, hother⟩ | ⟨hnone, hnothing⟩ |
        ⟨given, hplain, hgiven, hopposite⟩ := Condition.resolved_negate hsteady
    · rw [conditionPredicate_of_error herror, conditionPredicate_of_error hother]
      trivial
    · rw [conditionPredicate_of_nothing hnone, conditionPredicate_of_nothing hnothing]
      exact .none
    · rw [conditionPredicate_of_resolved hgiven, conditionPredicate_of_resolved hopposite]
      exact (resolvedPredicate_negate hcodecs hplain entity subject hcounts).map
        fun predicate opposite hdual => .some hdual

end Compiler

end ScopeQuery
