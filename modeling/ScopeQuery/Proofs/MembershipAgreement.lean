import ScopeQuery.Condition.Basic
import ScopeQuery.Proofs.FragmentTruth

/-!
# Membership in a list

What the fragment of a comparison with a list answers, beside what the matcher decides.
Both ask for equality with some item, or with none, and both treat the empty list alike.
They part where null is involved: a row's null is a member of a list that holds null for
the matcher and never for a database, and with null in the list no value is outside it for
a database. On lists without null the two agree.
-/

namespace ScopeQuery

/-- No value but null equals null. -/
theorem Value.isNull_of_eq {item left : Value} (hleft : left.isNull = false)
    (h : item.eq left = true) : item.isNull = false := by
  cases item with
  | null => cases left <;> simp_all [eq, isNull]
  | _ => rfl

/-- Equality is true of two equal values, of which neither is null. -/
theorem equalityTruth_eq_holds {left item : Value} :
    equalityTruth left item = .holds ↔ left.isNull = false ∧ item.eq left = true := by
  rw [equalityTruth, unlessNull, Value.eq_swap left item]
  cases hleft : left.isNull with
  | true => simp
  | false =>
    cases hitem : item.isNull with
    | true =>
      have hdiffer : item.eq left = false := by
        rw [Bool.eq_false_iff]
        intro h
        simp [Value.isNull_of_eq hleft h] at hitem
      simp [hdiffer]
    | false => simp

/-- Equality is false of two values that differ, of which neither is null. -/
theorem equalityTruth_eq_fails {left item : Value} :
    equalityTruth left item = .fails ↔
      left.isNull = false ∧ item.isNull = false ∧ item.eq left = false := by
  rw [equalityTruth, unlessNull, Value.eq_swap left item]
  cases left.isNull <;> cases item.isNull <;> simp

/-- A value is found in a list when it equals an item for a database. -/
theorem memberTruth_eq_holds {left : Value} {items : List Value} :
    memberTruth left items = .holds ↔ ∃ item ∈ items, equalityTruth left item = .holds := by
  induction items with
  | nil => simp [memberTruth]
  | cons item rest ih =>
    rw [memberTruth, Truth.or_eq_holds, ih]
    simp

/-- A value is found outside a list when it differs from every item for a database. -/
theorem memberTruth_eq_fails {left : Value} {items : List Value} :
    memberTruth left items = .fails ↔ ∀ item ∈ items, equalityTruth left item = .fails := by
  induction items with
  | nil => simp [memberTruth]
  | cons item rest ih => rw [memberTruth, Truth.or_eq_fails, ih, List.forall_mem_cons]

/-- A database finds a value in a list when the matcher does and the value is not null. -/
theorem memberTruth_agrees {left : Value} {items : List Value} :
    memberTruth left items = .holds ↔
      left.isNull = false ∧ left.isMemberOf (.array items) = true := by
  rw [memberTruth_eq_holds, Value.isMemberOf, List.any_eq_true]
  simp only [equalityTruth_eq_holds]
  constructor
  · rintro ⟨item, hitem, hleft, hequal⟩
    exact ⟨hleft, item, hitem, hequal⟩
  · rintro ⟨hleft, item, hitem, hequal⟩
    exact ⟨item, hitem, hleft, hequal⟩

/-- A database finds a value outside a list when the matcher does and there is no null in the
list. -/
theorem memberTruth_denied {left : Value} {items : List Value} :
    memberTruth left items = .fails ↔
      left.isOutside (.array items) = true ∧ ∀ item ∈ items, item.isNull = false := by
  rw [memberTruth_eq_fails]
  simp only [equalityTruth_eq_fails]
  cases items with
  | nil => simp [Value.isOutside]
  | cons first rest =>
    have houtside : left.isOutside (.array (first :: rest)) = true ↔
        left.isNull = false ∧ ∀ item ∈ first :: rest, item.eq left = false := by
      simp [Value.isOutside, Value.isMemberOf]
    rw [houtside]
    constructor
    · intro h
      exact ⟨⟨(h first (by simp)).1, fun item hitem => (h item hitem).2.2⟩,
        fun item hitem => (h item hitem).2.1⟩
    · rintro ⟨⟨hleft, hdiffer⟩, hitems⟩ item hitem
      exact ⟨hleft, hitems item hitem, hdiffer item hitem⟩

/-- A member of a list without null is not null. -/
theorem Value.isNull_of_isMemberOf {left : Value} {items : List Value}
    (hitems : ∀ item ∈ items, item.isNull = false)
    (hmember : left.isMemberOf (.array items) = true) : left.isNull = false := by
  obtain ⟨item, hitem, hequal⟩ := List.any_eq_true.mp hmember
  rw [eq_swap] at hequal
  exact isNull_of_eq (hitems item hitem) hequal

/-- A fragment of membership answers as membership does, in the empty list too. -/
theorem membership_truth? (settings : MatchSettings) (column : Argument → Value)
    (field : Argument) (denied : Bool) (items : List Value) :
    (membership field denied (.literal (.array items))).truth? settings column =
      some ((memberTruth (column field) items).denyIf denied) := by
  cases items <;> cases denied <;> rfl

/-- A comparison with a list is one of membership. -/
theorem comparisonExpression_list {dialect : Dialect} {field : Argument}
    {written : Option Operator} {items : List Value}
    (hlist : (written.getD .eq).acceptsList = true) :
    comparisonExpression dialect field written (.literal (.array items)) =
      .ok (membership field (written.getD .eq).isNegative (.literal (.array items))) := by
  cases written with
  | none => rfl
  | some operator => cases operator <;> first | rfl | cases hlist

/-- For a list the matcher decides membership. -/
theorem relationHolds_list {settings : MatchSettings} {left : Value} {operator : Operator}
    {items : List Value} (hlist : operator.acceptsList = true) :
    relationHolds settings left operator (.array items) =
      .ok (if operator.isNegative then left.isOutside (.array items)
        else left.isMemberOf (.array items)) := by
  cases operator <;> first | rfl | cases hlist

/-- Only an operator with a list form accepts a list. -/
theorem Comparand.acceptsList_of_check {operator : Operator} {items : List Value}
    (h : Comparand.check operator (.list items) = .ok ()) : operator.acceptsList = true := by
  simp only [check] at h
  split at h
  · cases h
  · simp_all

/-- A comparison with a list that a condition accepts has a fragment and a decision, and the
fragment is true when the decision is and null does not come between them: for membership it
must not be the value of the row, and for its opposite it must not be in the list. -/
theorem membership_agrees_but_for_null (settings : MatchSettings) (dialect : Dialect)
    (column : Argument → Value) (field : Argument) (written : Option Operator)
    (items : List Value) (hcheck : Comparand.check (written.getD .eq) (.list items) = .ok ()) :
    ∃ e answer decision,
      comparisonExpression dialect field written (.literal (.array items)) = .ok e ∧
      e.truth? settings column = some answer ∧
      relationHolds settings (column field) (written.getD .eq) (.array items) = .ok decision ∧
      (answer = .holds ↔ decision = true ∧
        if (written.getD .eq).isNegative then ∀ item ∈ items, item.isNull = false
        else (column field).isNull = false) ∧
      ((∀ item ∈ items, item.isNull = false) → (answer = .holds ↔ decision = true)) := by
  have hlist := Comparand.acceptsList_of_check hcheck
  refine ⟨_, _, _, comparisonExpression_list hlist, membership_truth? .., relationHolds_list hlist,
    ?_⟩
  cases (written.getD .eq).isNegative with
  | true =>
    simp only [Truth.denyIf, if_true, Truth.not_eq_holds, memberTruth_denied, true_and]
    exact fun hitems => and_iff_left hitems
  | false =>
    simp only [Truth.denyIf, Bool.false_eq_true, if_false, memberTruth_agrees]
    refine ⟨and_comm, fun hitems => ⟨And.right, fun hmember => ⟨?_, hmember⟩⟩⟩
    exact Value.isNull_of_isMemberOf hitems hmember

/-- A text outside a list of two others, for both. -/
theorem membership_agrees_outside_two_texts :
    Comparand.check .notIn (.list [.string "a", .string "b"]) = .ok () ∧
    ∃ e answer decision,
      comparisonExpression .sqlite (.text "grade") (some .notIn)
        (.literal (.array [.string "a", .string "b"])) = .ok e ∧
      e.truth? {} (fun _ => .string "c") = some answer ∧
      relationHolds {} (.string "c") .notIn (.array [.string "a", .string "b"]) = .ok decision ∧
      (answer = .holds ↔ decision = true ∧
        if Operator.notIn.isNegative then
          ∀ item ∈ [Value.string "a", Value.string "b"], item.isNull = false
        else (Value.string "c").isNull = false) ∧
      ((∀ item ∈ [Value.string "a", Value.string "b"], item.isNull = false) →
        (answer = .holds ↔ decision = true)) :=
  ⟨rfl, membership_agrees_but_for_null {} .sqlite (fun _ => .string "c") (.text "grade")
    (some .notIn) [.string "a", .string "b"] rfl⟩

/-- Null in a list comes between the two: no value is outside the list for a database, and
null itself is in it for the matcher. -/
theorem membership_parts_on_null :
    (Comparand.check .notIn (.list [.string "a", .null]) = .ok () ∧
      ∃ e, comparisonExpression .sqlite (.text "grade") (some .notIn)
        (.literal (.array [.string "a", .null])) = .ok e ∧
      e.truth? {} (fun _ => .string "b") = some .unknown ∧
      relationHolds {} (.string "b") .notIn (.array [.string "a", .null]) = .ok true) ∧
    Comparand.check .isIn (.list [.null]) = .ok () ∧
      ∃ e, comparisonExpression .sqlite (.text "grade") (some .isIn)
        (.literal (.array [.null])) = .ok e ∧
      e.truth? {} (fun _ => .null) = some .unknown ∧
      relationHolds {} .null .isIn (.array [.null]) = .ok true :=
  ⟨⟨rfl, _, rfl, rfl, rfl⟩, rfl, _, rfl, rfl, rfl⟩

end ScopeQuery
