import ScopeQuery.Condition.Noted
import ScopeQuery.Error.Query

/-!
# Conditions

A condition is the leaf of a scope: a subject, an operator and a comparand, or a
subject alone. Conditions are checked when they are built and when a computed
comparand is resolved, so a list stands only with an operator that accepts one
and holds no lists or objects, and no object is a value by itself.
-/

namespace ScopeQuery

/-- What a condition compares its subject with. -/
inductive Comparand where
  /-- Null. -/
  | null
  /-- A single value. -/
  | scalar (value : Value)
  /-- Several values. -/
  | list (items : List Value)
  /-- An expression of the statement. -/
  | expression (e : Expression)
  /-- A value computed when the condition is used; none drops the condition. -/
  | computed (compute : ConditionHead → Option Value)

namespace Comparand

/-- A value as a comparand: null, list or scalar. -/
def ofValue : Value → Comparand
  | .null => .null
  | .array items => .list items
  | value => .scalar value

/-- Whether the comparand is null. -/
def isNull : Comparand → Bool
  | .null => true
  | _ => false

/-- Whether the comparand is a list. -/
def isList : Comparand → Bool
  | .list _ => true
  | _ => false

/-- The value that a null, scalar or list stands for. -/
def value? : Comparand → Option Value
  | .null => some .null
  | .scalar value => some value
  | .list items => some (.array items)
  | .expression _ => none
  | .computed _ => none

/-- The comparand as an argument. A computed one has to be resolved before. -/
def toArgument : Comparand → Except QueryError Argument
  | .null => .ok (.literal .null)
  | .scalar value => .ok (.literal value)
  | .list items => .ok (.literal (.array items))
  | .expression e => .ok (.expression e)
  | .computed _ => .error (.unfitValue .unresolvedComputed)

/-- The comparand as error messages show it. -/
def describe : Comparand → String
  | .null => Value.null.text
  | .scalar value => value.text
  | .list items => (Value.array items).text
  | .expression e => e.template.getD "<expression>"
  | .computed _ => "<computed>"

/-- Whether a value is an array or an object. -/
def isNested : Value → Bool
  | .array _ => true
  | .object _ => true
  | _ => false

/-- The check of a comparand against an operator. -/
def check (operator : Operator) : Comparand → Except QueryError Unit
  | .list items =>
    if !operator.acceptsList then .error (.unfitValue (.listRefused operator))
    else if items.any isNested then .error (.unfitValue .nestedList)
    else .ok ()
  | .scalar (.object _) => .error (.unfitValue .objectValue)
  | _ => .ok ()

/-- No value as a comparand is computed. -/
theorem ofValue_ne_computed (value : Value) (compute : ConditionHead → Option Value) :
    ofValue value ≠ .computed compute := by
  cases value <;> simp [ofValue]

end Comparand

/-- A leaf of a scope. One without any part imposes nothing. An operator never
comes without a comparand. -/
structure Condition where
  /-- What the condition is about. -/
  subject : Option Subject
  /-- How it relates to what; none for a subject that has to be true. -/
  test : Option (Operator × Comparand)

namespace Condition

/-- How the subject relates to the comparand. -/
def operator (condition : Condition) : Option Operator := condition.test.map (·.1)

/-- What the subject is compared with. -/
def comparand (condition : Condition) : Option Comparand := condition.test.map (·.2)

/-- The condition that imposes nothing. -/
def empty : Condition := ⟨none, none⟩

/-- The condition of a subject, an operator and a comparand, if they fit. -/
def compare (subject : Subject) (operator : Operator) (comparand : Comparand) :
    Except QueryError Condition :=
  match Comparand.check operator comparand with
  | .ok () => .ok ⟨some subject, some (operator, comparand)⟩
  | .error error => .error error

/-- The condition that a subject equals a value, or is in a list. -/
def equal (subject : Subject) (comparand : Comparand) : Except QueryError Condition :=
  compare subject .eq comparand

/-- The condition that a subject is true. -/
def bare (subject : Subject) : Condition := ⟨some subject, none⟩

/-- Whether the condition imposes nothing. -/
def isEmpty (condition : Condition) : Bool := condition.subject.isNone && condition.test.isNone

/-- The subject and operator. -/
def head (condition : Condition) : ConditionHead := ⟨condition.subject, condition.operator⟩

/-- The field without hops and the single value it has to equal. -/
def default? (condition : Condition) : Option (String × Value) :=
  match condition.subject, condition.test with
  | some (.path path), some (.eq, .scalar value) =>
    if hasHop path then none else some (path, value)
  | _, _ => none

/-- The condition as error messages show it. -/
def describe (condition : Condition) : String :=
  Text.joined " " ((condition.subject.map (·.describe)).toList ++
    (condition.operator.map (·.sql)).toList ++ (condition.comparand.map (·.describe)).toList)

/-- The opposite condition. One that imposes nothing is its own opposite, and
any other one needs an operator. -/
def negate (condition : Condition) : Except QueryError Condition :=
  if condition.isEmpty then .ok condition
  else
    match condition.test with
    | some (operator, comparand) =>
      .ok { condition with test := some (operator.negate, comparand) }
    | none => .error (.noNegation condition.describe)

/-- What is left of the condition once its comparand is computed: nothing when it declines, and
otherwise the condition with the value, which has to fit. -/
def withComputed (condition : Condition) (operator : Operator) (value : Option Value) :
    Except QueryError (Option Condition) :=
  match value with
  | none => .ok none
  | some value =>
    match Comparand.check operator (.ofValue value) with
    | .ok () => .ok (some { condition with test := some (operator, .ofValue value) })
    | .error error => .error error

/-- What is left of the condition with its computed comparand called and checked. None is left
of a condition that imposes nothing or whose comparand declines. -/
def resolution (condition : Condition) : Noted QueryError (Option Condition) :=
  if condition.isEmpty then .of (.ok none)
  else
    match condition.test with
    | some (operator, .computed compute) =>
      (Noted.call compute condition.head).bind fun value =>
        .of (condition.withComputed operator value)
    | _ => .of (.ok (some condition))

/-- What resolving leaves of the condition. -/
def resolved (condition : Condition) : Except QueryError (Option Condition) :=
  condition.resolution.result

/-- The calls of a computed comparand that resolving the condition makes. -/
def calls (condition : Condition) : List ConditionHead := condition.resolution.calls

/-- The condition on another subject. -/
def withSubject (condition : Condition) (subject : Subject) : Condition :=
  { condition with subject := some subject }

variable {condition : Condition}

/-- Nothing is left of a condition that imposes nothing. -/
theorem resolution_of_isEmpty (h : condition.isEmpty = true) :
    condition.resolution = .of (.ok none) := by
  rw [resolution, if_pos h]

/-- A condition whose comparand is not computed is left as it is. -/
theorem resolution_of_plain (hempty : condition.isEmpty = false)
    (hplain : ∀ operator compute, condition.test ≠ some (operator, .computed compute)) :
    condition.resolution = .of (.ok (some condition)) := by
  unfold resolution
  rw [if_neg (by simp [hempty])]
  split
  · rename_i operator compute htest
    exact absurd htest (hplain operator compute)
  · rfl

/-- A computed comparand is called once, with the subject and operator of its condition. -/
theorem resolution_of_computed {operator : Operator} {compute : ConditionHead → Option Value}
    (htest : condition.test = some (operator, .computed compute)) :
    condition.resolution =
      ⟨[condition.head], condition.withComputed operator (compute condition.head)⟩ := by
  have hempty : condition.isEmpty = false := by simp [isEmpty, htest]
  rw [resolution, if_neg (by simp [hempty]), htest]
  rfl

/-- Nothing is left of a condition that imposes nothing. -/
theorem resolved_of_isEmpty (h : condition.isEmpty = true) : condition.resolved = .ok none := by
  rw [resolved, resolution_of_isEmpty h, Noted.of_result]

/-- A condition whose comparand is not computed resolves to itself. -/
theorem resolved_of_plain (hempty : condition.isEmpty = false)
    (hplain : ∀ operator compute, condition.test ≠ some (operator, .computed compute)) :
    condition.resolved = .ok (some condition) := by
  rw [resolved, resolution_of_plain hempty hplain, Noted.of_result]

/-- A condition with a comparand that is not computed is resolved as it is. -/
theorem resolved_of_comparand {subject : Option Subject} {operator : Operator}
    {comparand : Comparand} (h : ∀ compute, comparand ≠ .computed compute) :
    resolved ⟨subject, some (operator, comparand)⟩ =
      .ok (some ⟨subject, some (operator, comparand)⟩) :=
  resolved_of_plain (by simp [isEmpty]) fun _ compute htest =>
    h compute (by simpa using congrArg (·.map (·.2)) htest)

/-- A condition with a computed comparand resolves to what its value leaves of it. -/
theorem resolved_of_computed {operator : Operator} {compute : ConditionHead → Option Value}
    (htest : condition.test = some (operator, .computed compute)) :
    condition.resolved = condition.withComputed operator (compute condition.head) := by
  rw [resolved, resolution_of_computed htest]

/-- What is left of a condition is the condition itself, or the condition with the value that
its comparand was computed to. -/
theorem resolved_cases {found : Condition} (h : condition.resolved = .ok (some found)) :
    (found = condition ∧ condition.isEmpty = false ∧
        ∀ operator compute, condition.test ≠ some (operator, .computed compute)) ∨
      ∃ operator compute value, condition.test = some (operator, .computed compute) ∧
        compute condition.head = some value ∧
        Comparand.check operator (.ofValue value) = .ok () ∧
        found = { condition with test := some (operator, .ofValue value) } := by
  cases hempty : condition.isEmpty with
  | true =>
    rw [resolved_of_isEmpty hempty] at h
    cases h
  | false =>
    by_cases hcomputed : ∃ operator compute, condition.test = some (operator, .computed compute)
    · obtain ⟨operator, compute, htest⟩ := hcomputed
      rw [resolved_of_computed htest] at h
      unfold withComputed at h
      split at h
      · cases h
      · rename_i value hvalue
        split at h
        · rename_i hfits
          cases h
          exact .inr ⟨operator, compute, value, htest, hvalue, hfits, rfl⟩
        · cases h
    · have hplain : ∀ operator compute,
          condition.test ≠ some (operator, .computed compute) :=
        fun operator compute htest => hcomputed ⟨operator, compute, htest⟩
      rw [resolved_of_plain hempty hplain] at h
      cases h
      exact .inl ⟨rfl, rfl, hplain⟩

/-- A condition whose comparand is computed makes one call, any other one none. -/
theorem calls_of_computed {operator : Operator} {compute : ConditionHead → Option Value}
    (htest : condition.test = some (operator, .computed compute)) :
    condition.calls = [condition.head] := by
  rw [calls, resolution_of_computed htest]

/-- A condition whose comparand is not computed makes no call. -/
theorem calls_of_plain
    (hplain : ∀ operator compute, condition.test ≠ some (operator, .computed compute)) :
    condition.calls = [] := by
  cases hempty : condition.isEmpty with
  | true => rw [calls, resolution_of_isEmpty hempty, Noted.of_calls]
  | false => rw [calls, resolution_of_plain hempty hplain, Noted.of_calls]

/-- What is left of a condition has no computed comparand. -/
theorem test_ne_computed_of_resolved {found : Condition}
    (h : condition.resolved = .ok (some found)) (operator : Operator)
    (compute : ConditionHead → Option Value) : found.test ≠ some (operator, .computed compute) := by
  obtain ⟨rfl, -, hplain⟩ | ⟨given, computed, value, -, -, -, rfl⟩ := resolved_cases h
  · exact hplain operator compute
  · intro htest
    have hcomparand : Comparand.ofValue value = .computed compute := by
      simpa using congrArg (·.map (·.2)) htest
    exact Comparand.ofValue_ne_computed value compute hcomparand

/-- Resolving a condition keeps what it is about. -/
theorem subject_of_resolved {found : Condition} (h : condition.resolved = .ok (some found)) :
    found.subject = condition.subject := by
  obtain ⟨rfl, -⟩ | ⟨operator, compute, value, -, -, -, rfl⟩ := resolved_cases h <;> rfl

end Condition

end ScopeQuery
