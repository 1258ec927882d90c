import ScopeQuery.Condition.Basic
import Mathlib.Data.List.Basic

/-!
# The array rule

Only equality and membership take an array, its items are single values, and no object is a value.
Conditions are checked against the rule when they are built and when a computed value is put in,
but the check looks for lists: an array that is given as if it were a single value passes with
every operator. Apart from that, whatever is done to a condition keeps the rule.
-/

namespace ScopeQuery

/-- The operators that take an array. -/
def Operator.ofArrays : List Operator := [.eq, .neq, .isIn, .notIn]

theorem Operator.mem_ofArrays {operator : Operator} :
    operator ∈ ofArrays ↔ operator.acceptsList = true := by
  cases operator <;> decide

theorem Operator.acceptsList_negate (operator : Operator) :
    operator.negate.acceptsList = operator.acceptsList := by
  cases operator <;> rfl

/-- The rule for an operator and what it compares with. -/
structure Comparand.ObeysArrayRule (operator : Operator) (comparand : Comparand) : Prop where
  /-- An array has an operator of equality or membership. -/
  mem_ofArrays : ∀ items, comparand.value? = some (.array items) → operator ∈ Operator.ofArrays
  /-- No item of an array is an array or object. -/
  flat : ∀ items, comparand.value? = some (.array items) → ∀ item ∈ items, isNested item = false
  /-- No object is the value. -/
  noObject : ∀ fields, comparand.value? ≠ some (.object fields)

/-- The rule for the operator and comparand of a condition, if it has any. -/
def Condition.ObeysArrayRule (condition : Condition) : Prop :=
  ∀ operator comparand, condition.test = some (operator, comparand) →
    comparand.ObeysArrayRule operator

namespace Comparand

/-- What the check of a comparand asks for. -/
theorem check_eq_ok_iff {operator : Operator} {comparand : Comparand} :
    check operator comparand = .ok () ↔
      (∀ items, comparand = .list items →
        operator.acceptsList = true ∧ ∀ item ∈ items, isNested item = false) ∧
      ∀ fields, comparand ≠ .scalar (.object fields) := by
  cases comparand with
  | list items =>
    cases hlist : operator.acceptsList <;> cases hnested : items.any isNested <;>
      simp_all [check]
  | scalar value => cases value <;> simp [check]
  | _ => simp [check]

/-- A comparand fits an operator when it fits the opposite one. -/
theorem check_negate_eq_ok_iff {operator : Operator} {comparand : Comparand} :
    check operator.negate comparand = .ok () ↔ check operator comparand = .ok () := by
  rw [check_eq_ok_iff, check_eq_ok_iff, operator.acceptsList_negate]

/-- A comparand that was checked obeys the rule unless it is an array in the place of a single
value, which the check passes over. -/
theorem obeysArrayRule_of_check {operator : Operator} {comparand : Comparand}
    (hcheck : check operator comparand = .ok ()) :
    comparand.ObeysArrayRule operator ↔
      ∀ items, comparand = .scalar (.array items) →
        operator ∈ Operator.ofArrays ∧ ∀ item ∈ items, isNested item = false := by
  obtain ⟨hlist, hobject⟩ := check_eq_ok_iff.mp hcheck
  constructor
  · rintro hrule items rfl
    exact ⟨hrule.mem_ofArrays items rfl, hrule.flat items rfl⟩
  · intro hscalar
    have harray : ∀ items, comparand.value? = some (.array items) →
        operator ∈ Operator.ofArrays ∧ ∀ item ∈ items, isNested item = false := by
      intro items hvalue
      cases comparand with
      | scalar value =>
        cases hvalue
        exact hscalar items rfl
      | list given =>
        cases hvalue
        exact ⟨Operator.mem_ofArrays.mpr (hlist items rfl).1, (hlist items rfl).2⟩
      | _ => cases hvalue
    refine ⟨fun items h => (harray items h).1, fun items h => (harray items h).2, ?_⟩
    intro fields hvalue
    cases comparand with
    | scalar value =>
      cases hvalue
      exact hobject fields rfl
    | _ => cases hvalue

end Comparand

namespace Condition

/-- What can be made of conditions, with the operator and comparand that the first of them was
given, if it was given any. -/
inductive MadeFrom : Option (Operator × Comparand) → Condition → Prop
  /-- The condition that imposes nothing. -/
  | empty : MadeFrom none .empty
  /-- A subject alone. -/
  | bare (subject : Subject) : MadeFrom none (.bare subject)
  /-- A comparison that was accepted. -/
  | compare {subject : Subject} {operator : Operator} {comparand : Comparand}
      {condition : Condition} (h : Condition.compare subject operator comparand = .ok condition) :
      MadeFrom (some (operator, comparand)) condition
  /-- An equality that was accepted. -/
  | equal {subject : Subject} {comparand : Comparand} {condition : Condition}
      (h : Condition.equal subject comparand = .ok condition) :
      MadeFrom (some (.eq, comparand)) condition
  /-- The opposite of a condition. -/
  | negate {given : Option (Operator × Comparand)} {condition negated : Condition}
      (hmade : MadeFrom given condition) (h : condition.negate = .ok negated) :
      MadeFrom given negated
  /-- A condition moved to another subject. -/
  | withSubject {given : Option (Operator × Comparand)} {condition : Condition}
      (hmade : MadeFrom given condition) (subject : Subject) :
      MadeFrom given (condition.withSubject subject)
  /-- A condition with its computed value put in. -/
  | resolved {given : Option (Operator × Comparand)} {condition result : Condition}
      (hmade : MadeFrom given condition) (h : condition.resolved = .ok (some result)) :
      MadeFrom given result

/-- What stays of the operator and comparand that were given: the comparand is checked, the
operator takes lists as before, and an array in the place of a single value neither comes nor
goes. -/
structure Descends (given current : Operator × Comparand) : Prop where
  /-- The comparand fits the operator. -/
  fits : Comparand.check current.1 current.2 = .ok ()
  /-- The operator takes lists as before. -/
  acceptsList : current.1.acceptsList = given.1.acceptsList
  /-- An array in the place of a single value neither comes nor goes. -/
  array : ∀ items, current.2 = .scalar (.array items) ↔ given.2 = .scalar (.array items)

/-- A comparison that is accepted was checked. -/
theorem compare_eq_ok {subject : Subject} {operator : Operator} {comparand : Comparand}
    {condition : Condition} (h : compare subject operator comparand = .ok condition) :
    condition = ⟨some subject, some (operator, comparand)⟩ ∧
      Comparand.check operator comparand = .ok () := by
  unfold compare at h
  split at h
  · next hcheck =>
    cases h
    exact ⟨rfl, hcheck⟩
  · cases h

/-- The opposite condition has the opposite operator and the same comparand. -/
theorem test_of_negate {condition negated : Condition} (h : condition.negate = .ok negated) :
    negated.test = condition.test.map fun test => (test.1.negate, test.2) := by
  obtain ⟨subject, test⟩ := condition
  cases test with
  | none =>
    cases subject with
    | none =>
      cases h
      rfl
    | some subject => cases h
  | some test =>
    have hempty : isEmpty ⟨subject, some test⟩ = false := by simp [isEmpty]
    rw [negate, hempty] at h
    cases h
    rfl

/-- Putting a computed value in leaves the operator, and a comparand that is not computed. -/
theorem test_of_resolved {condition result : Condition}
    (h : condition.resolved = .ok (some result)) :
    result.test = condition.test ∨
      ∃ operator compute value, condition.test = some (operator, .computed compute) ∧
        result.test = some (operator, .ofValue value) ∧
        Comparand.check operator (.ofValue value) = .ok () := by
  obtain ⟨rfl, -⟩ | ⟨operator, compute, value, htest, -, hcheck, rfl⟩ := resolved_cases h
  · exact .inl rfl
  · exact .inr ⟨operator, compute, value, htest, rfl, hcheck⟩

/-- Whatever is made of a condition has an operator and comparand that descend from those given,
and none if none were given. -/
theorem MadeFrom.descends {given : Option (Operator × Comparand)} {condition : Condition}
    (hmade : MadeFrom given condition) : Option.Rel Descends given condition.test := by
  induction hmade with
  | empty | bare => exact .none
  | compare h | equal h =>
    obtain ⟨rfl, hcheck⟩ := compare_eq_ok h
    exact .some ⟨hcheck, rfl, fun _ => Iff.rfl⟩
  | @negate given condition negated hmade h ih =>
    rw [test_of_negate h]
    generalize condition.test = test at ih
    cases ih with
    | none => exact .none
    | some hdescends =>
      exact .some ⟨Comparand.check_negate_eq_ok_iff.mpr hdescends.fits,
        (Operator.acceptsList_negate _).trans hdescends.acceptsList, hdescends.array⟩
  | withSubject hmade subject ih => exact ih
  | @resolved given condition result hmade h ih =>
    obtain hsame | ⟨operator, compute, value, htest, hresult, hcheck⟩ := test_of_resolved h
    · rwa [hsame]
    · rw [htest] at ih
      rw [hresult]
      cases ih with
      | some hdescends =>
        have hvalue : ∀ items, Comparand.ofValue value ≠ .scalar (.array items) := by
          intro items
          cases value <;> simp [Comparand.ofValue]
        have hcomputed : ∀ items, Comparand.computed compute ≠ .scalar (.array items) := by simp
        exact .some ⟨hcheck, hdescends.acceptsList, fun items =>
          (iff_of_false (hvalue items) (hcomputed items)).trans (hdescends.array items)⟩

/-- The array rule holds of a condition, whatever it was made by, except when the condition it
was made from was given an array in the place of a single value and the rule does not hold of
that array. -/
theorem MadeFrom.obeysArrayRule_iff {given : Option (Operator × Comparand)}
    {condition : Condition} (hmade : MadeFrom given condition) :
    condition.ObeysArrayRule ↔
      ∀ operator items, given = some (operator, .scalar (.array items)) →
        operator ∈ Operator.ofArrays ∧ ∀ item ∈ items, Comparand.isNested item = false := by
  have hdescends := hmade.descends
  unfold ObeysArrayRule
  generalize condition.test = test at hdescends
  cases hdescends with
  | none => simp
  | @some given current hdescends =>
    obtain ⟨givenOperator, givenComparand⟩ := given
    obtain ⟨operator, comparand⟩ := current
    have hoperator : operator ∈ Operator.ofArrays ↔ givenOperator ∈ Operator.ofArrays := by
      rw [Operator.mem_ofArrays, Operator.mem_ofArrays, hdescends.acceptsList]
    have hrule := Comparand.obeysArrayRule_of_check hdescends.fits
    constructor
    · rintro hobeys _ items ⟨⟩
      have harray : comparand = .scalar (.array items) := (hdescends.array items).mpr rfl
      exact (hrule.mp (hobeys _ _ rfl) items harray).imp_left hoperator.mp
    · rintro hgiven _ _ ⟨⟩
      refine hrule.mpr fun items harray => ?_
      have hscalar : givenComparand = .scalar (.array items) := (hdescends.array items).mp harray
      exact (hgiven givenOperator items (by rw [hscalar])).imp_left hoperator.mpr

/-- A computed array that is put in after the negation, at the end of a path. -/
theorem MadeFrom.obeysArrayRule_of_computed_array :
    ObeysArrayRule ⟨some (.path "status"), some (.neq, .list [.string "new", .null])⟩ :=
  let compute : ConditionHead → Option Value := fun _ => some (.array [.string "new", .null])
  have hmade : MadeFrom (some (.eq, .computed compute))
      ⟨some (.path "orders/status"), some (.eq, .computed compute)⟩ := .compare rfl
  have hnegated : MadeFrom (some (.eq, .computed compute))
      ⟨some (.path "orders/status"), some (.neq, .computed compute)⟩ := .negate hmade rfl
  have hresolved : MadeFrom (some (.eq, .computed compute))
      ⟨some (.path "orders/status"), some (.neq, .list [.string "new", .null])⟩ :=
    .resolved hnegated rfl
  (hresolved.withSubject (.path "status")).obeysArrayRule_iff.mpr (by rintro _ _ ⟨⟩)

/-- The rule does not hold of every condition that can be made: an order takes an array that
stands in the place of a single value. -/
theorem MadeFrom.order_of_scalar_array :
    let array : Comparand :=
      .scalar (.array [.number (Number.ofNat 1), .number (Number.ofNat 2)])
    MadeFrom (some (.gt, array)) ⟨some (.path "id"), some (.gt, array)⟩ ∧
      ¬ ObeysArrayRule ⟨some (.path "id"), some (.gt, array)⟩ := by
  refine ⟨.compare rfl, fun hrule => ?_⟩
  have hoperator : Operator.gt ∈ Operator.ofArrays := (hrule _ _ rfl).mem_ofArrays _ rfl
  exact absurd hoperator (by decide)

end Condition

end ScopeQuery
