import ScopeQuery.Proofs.OppositePredicates

/-!
# Counts of related rows

A condition on the number of related rows compiles to a comparison with a counting sub-query,
unless it only asks whether there are any. Numbers are compared with counts exactly, not
through the nearest number to the count. Read this way, the shortcut and the comparison say the
same about every number of rows, so the opposite condition holds for exactly the other counts,
whichever of the forms the two of them take.
-/

namespace ScopeQuery

/-! ### Comparing counts with numbers -/

/-- How a count stands to a number; to the value that equals nothing it has no order. -/
def Number.countOrder (count : Nat) : Number → Option Ordering
  | .nan => none
  | .infinite negative => some (if negative then .gt else .lt)
  | .finite negative units =>
    some (Ord.compare ((count * unitsPerOne : Nat) : Int) (signedUnits negative units))

namespace Operator

/-- The operators that compare two numbers. -/
def comparisons : List Operator := [.eq, .neq, .lt, .lte, .gt, .gte]

/-- Whether a count stands in the relation of a comparison operator to a number. -/
def comparesCount (operator : Operator) (count : Nat) (number : Number) : Bool :=
  match operator with
  | .eq => number.countOrder count == some .eq
  | .neq => number.countOrder count != some .eq
  | operator => (number.countOrder count).any fun order => operator.admits order

end Operator

section Counts

variable {number : Number} (count : Nat)

/-- Whole numbers are ordered as their counts of units. -/
theorem compare_units (other : Nat) :
    Ord.compare ((count * Number.unitsPerOne : Nat) : Int)
      ((other * Number.unitsPerOne : Nat) : Int) = Ord.compare count other := by
  have hpositive : 0 < Number.unitsPerOne := by decide +kernel
  rcases Nat.lt_trichotomy count other with hlt | rfl | hgt
  · rw [Nat.compare_eq_lt.2 hlt, Int.compare_eq_lt]
    exact Int.ofNat_lt.2 (Nat.mul_lt_mul_of_pos_right hlt hpositive)
  · rw [Nat.compare_eq_eq.2 rfl, Int.compare_eq_eq.2 rfl]
  · rw [Nat.compare_eq_gt.2 hgt, Int.compare_eq_gt]
    exact Int.ofNat_lt.2 (Nat.mul_lt_mul_of_pos_right hgt hpositive)

/-- Either zero stands to a count as the count zero does. -/
theorem countOrder_of_isZero (h : number.isZero = true) :
    number.countOrder count = some (Ord.compare count 0) := by
  cases number with
  | nan | infinite negative => cases h
  | finite negative units =>
    obtain rfl : units = 0 := by simpa [Number.isZero] using h
    have hzero : Number.signedUnits negative 0 = ((0 * Number.unitsPerOne : Nat) : Int) := by
      cases negative <;> simp [Number.signedUnits]
    rw [Number.countOrder, hzero, compare_units]

/-- The number one stands to a count as the count one does. -/
theorem countOrder_of_eq_one (h : number.eq (Number.ofNat 1) = true) :
    number.countOrder count = some (Ord.compare count 1) := by
  have hone : Number.ofNat 1 = .finite false (1 * Number.unitsPerOne) := by decide +kernel
  rw [hone] at h
  cases number with
  | nan => cases h
  | infinite negative => cases negative <;> cases h
  | finite negative units =>
    have hequal : Ord.compare (Number.signedUnits negative units)
        ((1 * Number.unitsPerOne : Nat) : Int) = .eq := Option.some.inj (beq_iff_eq.1 h)
    rw [Number.countOrder, Int.compare_eq_eq.1 hequal, compare_units]

end Counts

/-- A number of rows is compared with zero by whether there are any. -/
theorem compare_zero_eq (count : Nat) :
    Ord.compare count 0 = if 0 < count then .gt else .eq := by
  split
  · rename_i hpos
    exact Nat.compare_eq_gt.2 hpos
  · rename_i hnone
    exact Nat.compare_eq_eq.2 (Nat.eq_zero_of_not_pos hnone)

/-- A number of rows is below one when there are none. -/
theorem compare_one_eq_lt (count : Nat) : (Ord.compare count 1 == .lt) = !decide (0 < count) := by
  rw [Bool.eq_iff_iff, beq_iff_eq, Nat.compare_eq_lt]
  simp

/-- A comparison that asks for presence or absence is true of the counts that answer so. -/
theorem presenceAsked?_sound {operator : Operator} {comparand : Comparand} {asked : Bool}
    (h : presenceAsked? operator comparand = some asked) :
    ∃ number, comparand = .scalar (.number number) ∧
      ∀ count, operator.comparesCount count number = (decide (0 < count) == asked) := by
  unfold presenceAsked? at h
  split at h
  · rename_i number
    refine ⟨number, rfl, fun count => ?_⟩
    -- Zero is asked about by `=`, `<=`, `>` and `!=`, one by `<` and `>=`.
    cases operator with
    | eq | lte | gt | neq =>
      obtain ⟨hnumber, hasked⟩ := Option.ite_none_right_eq_some.1 h
      obtain rfl := Option.some.inj hasked
      simp only [Operator.comparesCount, countOrder_of_isZero count hnumber, compare_zero_eq]
      by_cases hcount : 0 < count <;> simp [hcount, Operator.admits]
    | lt | gte =>
      obtain ⟨hnumber, hasked⟩ := Option.ite_none_right_eq_some.1 h
      obtain rfl := Option.some.inj hasked
      simp only [Operator.comparesCount, countOrder_of_eq_one count hnumber, Option.any_some,
        Operator.admits, bne, compare_one_eq_lt]
      by_cases hcount : 0 < count <;> simp [hcount]
    | _ => cases h
  · cases h

/-- Of two opposite comparisons with a number, one is true of a count where the other is not. -/
theorem Operator.comparesCount_negate {operator : Operator} (hcompares : operator ∈ comparisons)
    {number : Number} (hnumber : number ≠ .nan) (count : Nat) :
    operator.negate.comparesCount count number = !operator.comparesCount count number := by
  obtain ⟨order, horder⟩ : ∃ order, number.countOrder count = some order := by
    cases number with
    | nan => exact absurd rfl hnumber
    | infinite negative => exact ⟨_, rfl⟩
    | finite negative units => exact ⟨_, rfl⟩
  simp only [comparisons, List.mem_cons, List.not_mem_nil, or_false] at hcompares
  rcases hcompares with rfl | rfl | rfl | rfl | rfl | rfl <;>
    simp only [comparesCount, negate, horder, Option.any_some] <;> cases order <;> rfl

/-! ### Reading fragments about counts -/

/-- The statement without what it selects. -/
def Statement.unselected (s : Statement) : Statement := { s with fields := [] }

/-- Whether a fragment holds that asks whether a sub-query has rows, or that it has none. -/
def Expression.holdsFor (rows : Statement → Nat) : Expression → Bool
  | ⟨some "exists []", [.statement s], _, _⟩ => decide (0 < rows s.unselected)
  | ⟨some "not []", [.expression e], _, _⟩ => !e.holdsFor rows
  | _ => false

/-- Whether a predicate about the number of rows of a sub-query holds, where each sub-query has
as many rows as is said, whatever it selects. -/
def Predicate.holdsFor (rows : Statement → Nat) : Predicate → Bool
  | .fragment (.expression e) => e.holdsFor rows
  | .comparison (.expression ⟨some "[]", [.statement s], _, _⟩) operator
      (.literal (.number number)) =>
    (operator.getD .eq).comparesCount (rows s.unselected) number
  | _ => false

/-- What a computed comparand leaves is none itself, and so has an argument. -/
theorem Condition.toArgument_of_resolved {condition given : Condition}
    (hgiven : condition.resolved = .ok (some given)) {operator : Operator} {comparand : Comparand}
    (htest : given.test = some (operator, comparand)) :
    ∃ value, comparand.toArgument = .ok value := by
  cases comparand with
  | computed compute => exact absurd htest (test_ne_computed_of_resolved hgiven operator compute)
  | _ => exact ⟨_, rfl⟩

/-- The number of rows of a sub-query on one table. -/
def Database.rowCount (database : Database) (sight : Sight) : Statement → Nat
  | ⟨_, _, _, _, [⟨some name, .literal (.string table)⟩], _, predicates, _, _, _, _, _⟩ =>
    ((database.rows table).filter fun row =>
      Junction.and.decides (partsHold database .or ((name, row) :: sight) predicates)).length
  | _ => 0

/-- The rows a link leads to are those that are tied to the row around them. -/
theorem Database.rowCount_rows (database : Database) (sight : Sight) (link : Link)
    (parent : Entity) (hop : String) :
    database.rowCount sight (link.rows parent hop).statement =
      (database.linked sight parent.reference (Entity.hopAlias hop (parent.depth + 1))
        link).length := by
  refine congrArg List.length (List.filter_congr fun row _ => ?_)
  rw [partsHold_eq_map]
  exact Junction.decides_singleton .and _

namespace Compiler

variable {compiler : Compiler} {entity : Entity} {hop : String} {related : RelatedRows}

/-- Rows a hop has just led to have no predicates besides the one that ties them to their
parent. -/
theorem scopePredicates_of_follow (h : compiler.follow entity hop = .ok related) :
    compiler.scopePredicates related.entity related.selection.scope = .ok [] := by
  have hsimple : related.selection.scope.simplify = .scope .and [] := by
    rw [Selection.scope, follow_children h]
    rfl
  rw [scopePredicates_and _ _ hsimple, treePredicates_nil]

/-- The predicate of a condition on the number of the rows a hop leads to. -/
theorem countPredicate_of_follow (h : compiler.follow entity hop = .ok related)
    (condition : Condition) :
    compiler.countPredicate related condition =
      match condition.test with
      | none => .ok (related.existsWith []).predicate
      | some (operator, comparand) =>
        match presenceAsked? operator comparand with
        | some true => .ok (related.existsWith []).predicate
        | some false =>
          .ok (Expression.ofTemplate "not []" [.expression (related.existsWith [])]).predicate
        | none => (plainArgument comparand).map
            (comparisonPredicate (.expression (related.countWith [])) (some operator)) := by
  have hexists : compiler.existsFragment related = .ok (related.existsWith []) := by
    rw [existsFragment_eq, scopePredicates_of_follow h]
    rfl
  have hcount : compiler.countFragment related = .ok (related.countWith []) := by
    rw [countFragment_eq, scopePredicates_of_follow h]
    rfl
  rw [existsFragment] at hexists
  rw [countFragment] at hcount
  rw [countPredicate, notedCount]
  cases condition.test with
  | none =>
    dsimp only
    rw [Noted.map_result, hexists]
    rfl
  | some test =>
    obtain ⟨operator, comparand⟩ := test
    dsimp only
    rcases presenceAsked? operator comparand with _ | _ | _
    · cases plainArgument comparand with
      | error error => rfl
      | ok value =>
        dsimp only
        rw [Noted.map_result, hcount]
        rfl
    · dsimp only
      rw [Noted.map_result, hexists]
      rfl
    · dsimp only
      rw [Noted.map_result, hexists]
      rfl

/-- A sub-query on the rows a hop leads to is, but for what it selects, the one the hop led
to. -/
theorem unselected_subQuery (h : compiler.follow entity hop = .ok related) (selected : String) :
    (related.subQuery [] selected).unselected = related.statement := by
  obtain ⟨link, rfl⟩ := exists_link_of_follow h
  rfl

/-- A comparison of the rows a hop leads to with a number is read as one of their count. -/
theorem countComparison_holdsFor (h : compiler.follow entity hop = .ok related)
    (rows : Statement → Nat) (operator : Operator) (number : Number) :
    (comparisonPredicate (.expression (related.countWith [])) (some operator)
        (.literal (.number number))).holdsFor rows =
      operator.comparesCount (rows related.statement) number := by
  rw [← unselected_subQuery h "count(*)"]
  cases operator <;> rfl

/-- The two fragments without a count are read as presence and absence of the rows a hop leads
to. -/
theorem presence_holdsFor (h : compiler.follow entity hop = .ok related)
    (rows : Statement → Nat) :
    (related.existsWith []).predicate.holdsFor rows = decide (0 < rows related.statement) ∧
      (Expression.ofTemplate "not []" [.expression (related.existsWith [])]).predicate.holdsFor
        rows = !decide (0 < rows related.statement) := by
  rw [← unselected_subQuery h "1"]
  exact ⟨rfl, rfl⟩

/-- Over a database, presence is read as some related row being there. -/
theorem presence_holdsIn (h : compiler.follow entity hop = .ok related) (database : Database)
    (sight : Sight) :
    (related.existsWith []).predicate.holdsIn database .or sight =
      (related.existsWith []).predicate.holdsFor (database.rowCount sight) := by
  rw [(presence_holdsFor h _).1]
  obtain ⟨link, rfl⟩ := exists_link_of_follow h
  rw [database.rowCount_rows]
  have hread : ((link.rows entity hop).existsWith []).predicate.holdsIn database .or sight =
      Junction.or.decides ((database.linked sight entity.reference
        (Entity.hopAlias hop (entity.depth + 1)) link).map fun _ => true) := rfl
  rw [hread]
  cases database.linked sight entity.reference (Entity.hopAlias hop (entity.depth + 1)) link with
  | nil => rfl
  | cons row rows => rfl

/-- A condition on the number of the rows a hop leads to asks what is left of it when its
comparand is resolved. -/
theorem conditionPredicate_of_count (hhop : hasHop hop = false)
    (hfollow : compiler.follow entity hop = .ok related) {condition given : Condition}
    (hsubject : condition.subject = some (.path (hop ++ "/" ++ countSegment)))
    (hgiven : condition.resolved = .ok (some given)) :
    compiler.conditionPredicate entity condition =
      (compiler.countPredicate related given).map some := by
  have hpath := (Condition.subject_of_resolved hgiven).trans hsubject
  rw [conditionPredicate_of_resolved hgiven,
    resolvedPredicate_of_hop hpath (splitHop?_of_hop hhop countSegment),
    hopPredicate_of_count hfollow]

/-- Where presence or absence is asked for, the fragment for it says what the comparison
says. -/
theorem countPredicate_of_presence (hfollow : compiler.follow entity hop = .ok related)
    {given : Condition} {operator : Operator} {comparand : Comparand} {asked : Bool}
    (htest : given.test = some (operator, comparand))
    (hasked : presenceAsked? operator comparand = some asked) :
    ∃ entry, compiler.countPredicate related given = .ok entry ∧
      (entry = (related.existsWith []).predicate ∨
        entry = (Expression.ofTemplate "not []" [.expression (related.existsWith [])]).predicate) ∧
      ∃ number, comparand = .scalar (.number number) ∧
        ∀ rows, entry.holdsFor rows =
          operator.comparesCount (rows related.statement) number := by
  obtain ⟨number, rfl, hsound⟩ := presenceAsked?_sound hasked
  rw [countPredicate_of_follow hfollow, htest]
  dsimp only
  rw [hasked]
  cases asked with
  | true =>
    refine ⟨_, rfl, .inl rfl, number, rfl, fun rows => ?_⟩
    rw [(presence_holdsFor hfollow rows).1, hsound, beq_true]
  | false =>
    refine ⟨_, rfl, .inr rfl, number, rfl, fun rows => ?_⟩
    rw [(presence_holdsFor hfollow rows).2, hsound, beq_false]

/-- Any other comparison counts the rows. -/
theorem countPredicate_of_counted (hfollow : compiler.follow entity hop = .ok related)
    {given : Condition} {operator : Operator} {comparand : Comparand} {value : Argument}
    (htest : given.test = some (operator, comparand))
    (hasked : presenceAsked? operator comparand = none)
    (hvalue : comparand.toArgument = .ok value) :
    compiler.countPredicate related given =
      .ok (comparisonPredicate (.expression (related.countWith [])) (some operator) value) := by
  rw [countPredicate_of_follow hfollow, htest]
  dsimp only
  rw [hasked, plainArgument, hvalue]
  rfl

/-- A comparison with a number compiles to an entry that says of every count what the comparison
says. -/
theorem countPredicate_of_number (hfollow : compiler.follow entity hop = .ok related)
    {given : Condition} {operator : Operator} {number : Number}
    (htest : given.test = some (operator, .scalar (.number number))) :
    ∃ entry, compiler.countPredicate related given = .ok entry ∧
      ∀ rows, entry.holdsFor rows = operator.comparesCount (rows related.statement) number := by
  cases hasked : presenceAsked? operator (.scalar (.number number)) with
  | none =>
    exact ⟨_, countPredicate_of_counted hfollow htest hasked rfl,
      fun rows => countComparison_holdsFor hfollow rows operator number⟩
  | some asked =>
    obtain ⟨entry, hentry, -, found, hfound, hholds⟩ :=
      countPredicate_of_presence hfollow htest hasked
    obtain rfl : number = found := by simpa using hfound
    exact ⟨entry, hentry, hholds⟩

/-- A comparison becomes a test for presence or absence that says the same, or compares the
counting sub-query. -/
theorem countPredicate_of_test (hfollow : compiler.follow entity hop = .ok related)
    {condition given : Condition} (hgiven : condition.resolved = .ok (some given))
    {operator : Operator} {comparand : Comparand}
    (htest : given.test = some (operator, comparand)) :
    ∃ entry, compiler.countPredicate related given = .ok entry ∧
      (((entry = (related.existsWith []).predicate ∨
        entry =
          (Expression.ofTemplate "not []" [.expression (related.existsWith [])]).predicate) ∧
        ∃ number, comparand = .scalar (.number number) ∧
          ∀ rows, entry.holdsFor rows =
            operator.comparesCount (rows related.statement) number) ∨
      ∃ value, comparand.toArgument = .ok value ∧
        entry = .comparison (.expression (related.countWith []))
          (if operator = .eq then none else some operator) value) := by
  cases hasked : presenceAsked? operator comparand with
  | some asked =>
    obtain ⟨entry, hentry, hpresence⟩ := countPredicate_of_presence hfollow htest hasked
    exact ⟨entry, hentry, .inl hpresence⟩
  | none =>
    obtain ⟨value, hvalue⟩ := Condition.toArgument_of_resolved hgiven htest
    refine ⟨_, countPredicate_of_counted hfollow htest hasked hvalue, .inr ⟨value, hvalue, ?_⟩⟩
    cases operator <;> rfl

end Compiler

/-- The opposite of a comparison leaves the same comparand, when its comparand is resolved. -/
theorem Condition.resolved_of_negate {condition given negated : Condition}
    (hgiven : condition.resolved = .ok (some given)) {operator : Operator} {comparand : Comparand}
    (htest : given.test = some (operator, comparand)) (hsteady : condition.Steady)
    (hnegate : condition.negate = .ok negated) :
    negated.resolved = .ok (some ⟨condition.subject, some (operator.negate, comparand)⟩) := by
  obtain ⟨hempty, rfl⟩ | ⟨written, value, hwritten, rfl⟩ := negate_shape hnegate
  · have hnothing : negated.resolved = .ok none := resolved_of_isEmpty hempty
    rw [hnothing] at hgiven
    cases hgiven
  · obtain ⟨subject, test⟩ := condition
    obtain rfl : test = some (written, value) := hwritten
    obtain ⟨error, -, herror, -⟩ | ⟨hnone, -⟩ | ⟨left, -, hleft, hopposite⟩ :=
      resolved_negate hsteady
    · rw [herror] at hgiven
      cases hgiven
    · rw [hnone] at hgiven
      cases hgiven
    · rw [hleft] at hgiven
      cases hgiven
      cases htest
      exact hopposite

/-- The entry for a condition on the number of related rows says what the condition says. A bare
condition holds exactly where there is a row. A comparison that becomes a test for presence or
absence holds for exactly the counts that compare so, and every other one is the comparison of
the counting sub-query with the value as it stands. So for a number and an operator that compares
numbers, the entry of the negated condition holds for exactly the counts for which that of the
condition does not. -/
theorem countEntry_agrees_with_counting (compiler : Compiler) (entity : Entity) {hop : String}
    (hhop : hasHop hop = false) {related : RelatedRows}
    (hfollow : compiler.follow entity hop = .ok related) {condition given : Condition}
    (hsubject : condition.subject = some (.path (hop ++ "/" ++ countSegment)))
    (hgiven : condition.resolved = .ok (some given)) :
    ∃ entry, compiler.conditionPredicate entity condition = .ok (some entry) ∧
      (given.test = none →
        ∀ rows, entry.holdsFor rows = decide (1 ≤ rows related.statement)) ∧
      (∀ operator comparand, given.test = some (operator, comparand) →
        ((entry = (related.existsWith []).predicate ∨
          entry =
            (Expression.ofTemplate "not []" [.expression (related.existsWith [])]).predicate) ∧
          ∃ number, comparand = .scalar (.number number) ∧
            ∀ rows, entry.holdsFor rows =
              operator.comparesCount (rows related.statement) number) ∨
        ∃ value, comparand.toArgument = .ok value ∧
          entry = .comparison (.expression (related.countWith []))
            (if operator = .eq then none else some operator) value) ∧
      ∀ operator number negated, given.test = some (operator, .scalar (.number number)) →
        operator ∈ Operator.comparisons → number ≠ .nan → condition.Steady →
        condition.negate = .ok negated →
        ∃ opposite, compiler.conditionPredicate entity negated = .ok (some opposite) ∧
          ∀ rows, opposite.holdsFor rows = !entry.holdsFor rows := by
  have hentry := Compiler.conditionPredicate_of_count hhop hfollow hsubject hgiven
  cases htest : given.test with
  | none =>
    rw [Compiler.countPredicate_of_follow hfollow, htest] at hentry
    refine ⟨_, hentry, fun _ rows => (Compiler.presence_holdsFor hfollow rows).1, ?_, ?_⟩
    · rintro _ _ ⟨⟩
    · rintro _ _ _ ⟨⟩
  | some test =>
    obtain ⟨operator, comparand⟩ := test
    obtain ⟨entry, hcompiled, hform⟩ := Compiler.countPredicate_of_test hfollow hgiven htest
    rw [hcompiled] at hentry
    refine ⟨entry, hentry, fun h => absurd h (Option.some_ne_none _), ?_, ?_⟩
    · rintro _ _ ⟨⟩
      exact hform
    · rintro _ number negated ⟨⟩ hcompares hnumber hsteady hnegate
      obtain ⟨known, hknown, hholds⟩ := Compiler.countPredicate_of_number hfollow htest
      obtain rfl : known = entry := Except.ok.inj (hknown.symm.trans hcompiled)
      have hreversed : (⟨condition.subject,
          some (operator.negate, .scalar (.number number))⟩ : Condition).test =
            some (operator.negate, .scalar (.number number)) := rfl
      obtain ⟨opposite, hopposite, hopposed⟩ :=
        Compiler.countPredicate_of_number hfollow hreversed
      have hnegated := Condition.resolved_of_negate hgiven htest hsteady hnegate
      refine ⟨opposite, ?_, fun rows => ?_⟩
      · rw [Compiler.conditionPredicate_of_count hhop hfollow _ hnegated, hopposite]
        · rfl
        · exact (Condition.subject_of_resolved hnegated).symm.trans hsubject
      · rw [hopposed, hholds, Operator.comparesCount_negate hcompares hnumber]

/-- Having no orders, asked with the negative zero, and the opposite. -/
theorem countEntry_agrees_with_counting_of_orders :
    let compiler : Compiler :=
      ⟨.generic, .passthrough, some (Links.empty.insert "users" "orders" ⟨"orders", "user_id", "id"⟩)⟩
    let condition (operator : Operator) : Condition :=
      ⟨some (.path "orders/#"), some (operator, .scalar (.number (.finite true 0)))⟩
    ∃ entry opposite,
      compiler.conditionPredicate (.root "users") (condition .lte) = .ok (some entry) ∧
      compiler.conditionPredicate (.root "users") (condition .gt) = .ok (some opposite) ∧
      ∀ rows, opposite.holdsFor rows = !entry.holdsFor rows := by
  intro compiler condition
  have hhop : hasHop "orders" = false := by decide
  have hsubject : (condition .lte).subject = some (.path ("orders" ++ "/" ++ countSegment)) := rfl
  obtain ⟨entry, hentry, -, -, hnegated⟩ :=
    countEntry_agrees_with_counting compiler (.root "users") hhop rfl hsubject rfl
  obtain ⟨opposite, hopposite, hholds⟩ := hnegated .lte (.finite true 0) (condition .gt) rfl
    (by decide) (by simp) (fun _ _ h => by cases h) rfl
  exact ⟨entry, opposite, hentry, hopposite, hholds⟩

end ScopeQuery
