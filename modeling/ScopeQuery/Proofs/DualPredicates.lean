import Mathlib.Data.List.Forall2
import ScopeQuery.Proofs.DatabaseReading
import ScopeQuery.Proofs.PredicateClauses

/-!
# Dual predicates

Two predicates are dual when one holds, about some of the rows of its sub-queries, exactly
where the other fails about all of them. Opposite comparisons are dual, and so are sub-queries
for dual conditions and groups of dual predicates under opposite junctions. A predicate is
settled where it makes no difference whether some or all rows are meant. Along a path that
comes down to the rows at its end: some of them has to satisfy the condition exactly when none
of them fails it.
-/

namespace ScopeQuery

/-! ### Readings by the shape of a predicate -/

section Shapes

variable (database : Database) (asked : Junction) (sight : Sight)

/-- Several predicates are read one by one. -/
theorem partsHold_eq_map (parts : List Predicate) :
    partsHold database asked sight parts = parts.map (·.holdsIn database asked sight) := by
  induction parts with
  | nil => rfl
  | cons part rest ih => rw [partsHold, ih, List.map_cons]

/-- A comparison holds when its answer speaks for the row. -/
theorem comparisonPredicate_holdsIn (field : Argument) (operator : Operator) (value : Argument) :
    (comparisonPredicate field (some operator) value).holdsIn database asked sight =
      asked.accepts (database.comparisonTruth sight field operator value) := by
  cases operator <;> rfl

/-- The rows of a link's table that are tied to the row around them. -/
def Database.linked (around aliasName : String) (link : Link) : List Row :=
  (database.rows link.table).filter fun row =>
    equalityTruth
      (Sight.column ((aliasName, row) :: sight) (aliasName ++ "." ++ link.relatedColumn))
      (Sight.column ((aliasName, row) :: sight) (around ++ "." ++ link.parentColumn)) == .holds

/-- A sub-query asks whether some or all of the linked rows satisfy its condition. -/
theorem existsPredicate_holdsIn (around aliasName : String) (link : Link) (inner : Predicate) :
    (existsPredicate around aliasName link inner).holdsIn database asked sight =
      asked.decides ((database.linked sight around aliasName link).map fun row =>
        inner.holdsIn database asked ((aliasName, row) :: sight)) := by
  have hcondition (row : Row) :
      Junction.and.decides (partsHold database asked ((aliasName, row) :: sight) [inner]) =
        inner.holdsIn database asked ((aliasName, row) :: sight) := by
    rw [partsHold_eq_map]
    exact Junction.decides_singleton .and _
  simp only [← hcondition]
  rfl

end Shapes

/-! ### Duality -/

namespace Predicate

/-- The opposite holds in one reading exactly where the predicate fails in the other. -/
def Dual (predicate opposite : Predicate) : Prop :=
  ∀ (database : Database) (asked : Junction) (sight : Sight),
    opposite.holdsIn database asked sight = !predicate.holdsIn database asked.flip sight

/-- Comparisons with opposite operators are dual. -/
theorem dual_comparison (field : Argument) (operator : Operator) (value : Argument) :
    Dual (comparisonPredicate field (some operator) value)
      (comparisonPredicate field (some operator.negate) value) := by
  intro database asked sight
  rw [comparisonPredicate_holdsIn, comparisonPredicate_holdsIn,
    database.comparisonTruth_negate, Junction.accepts_not]

/-- Sub-queries for dual conditions are dual. -/
theorem Dual.exists {inner opposite : Predicate} (h : Dual inner opposite)
    (around aliasName : String) (link : Link) :
    Dual (existsPredicate around aliasName link inner)
      (existsPredicate around aliasName link opposite) := by
  intro database asked sight
  have hrows (row : Row) := h database asked ((aliasName, row) :: sight)
  have hmap : ((database.linked sight around aliasName link).map fun row =>
        opposite.holdsIn database asked ((aliasName, row) :: sight)) =
      ((database.linked sight around aliasName link).map fun row =>
        inner.holdsIn database asked.flip ((aliasName, row) :: sight)).map not := by
    rw [List.map_map]
    exact List.map_congr_left fun row _ => hrows row
  rw [existsPredicate_holdsIn, existsPredicate_holdsIn, hmap, Junction.decides_not]

/-- Dual predicates hold, one by one, where the others fail in the other reading. -/
theorem partsHold_dual {parts opposites : List Predicate} (h : List.Forall₂ Dual parts opposites)
    (database : Database) (asked : Junction) (sight : Sight) :
    partsHold database asked sight opposites =
      (partsHold database asked.flip sight parts).map not := by
  induction h with
  | nil => rfl
  | cons hpart _ ih => rw [partsHold, partsHold, List.map_cons, hpart, ih]

/-- Groups of dual predicates under opposite junctions are dual. -/
theorem dual_group {parts opposites : List Predicate} (h : List.Forall₂ Dual parts opposites)
    (junction : Junction) : Dual (.group junction parts) (.group junction.flip opposites) := by
  intro database asked sight
  have hflip : junction.flip.flip = junction := by cases junction <;> rfl
  rw [holdsIn, holdsIn, partsHold_dual h, Junction.decides_not, hflip]

/-! ### Settled predicates -/

/-- It makes no difference whether some or all of the rows of sub-queries are meant. -/
def Settled (database : Database) (sight : Sight) (predicate : Predicate) : Prop :=
  predicate.holdsIn database .or sight = predicate.holdsIn database .and sight

instance (database : Database) (sight : Sight) (predicate : Predicate) :
    Decidable (predicate.Settled database sight) :=
  inferInstanceAs (Decidable (_ = _))

mutual

/-- A predicate is settled when its fragments are. -/
theorem settled_of_leaves {database : Database} {sight : Sight} (predicate : Predicate)
    (h : ∀ fragment ∈ predicate.leaves, fragment.Settled database sight) :
    predicate.Settled database sight := by
  cases predicate with
  | comparison field operator value => exact h _ (by simp [leaves])
  | fragment argument => exact h _ (by simp [leaves])
  | group junction parts =>
    rw [Settled, holdsIn, holdsIn, partsHold_of_leaves parts h]

/-- Predicates whose fragments are settled hold alike in both readings. -/
theorem partsHold_of_leaves {database : Database} {sight : Sight} (parts : List Predicate)
    (h : ∀ fragment ∈ allLeaves parts, fragment.Settled database sight) :
    partsHold database .or sight parts = partsHold database .and sight parts := by
  cases parts with
  | nil => rfl
  | cons part rest =>
    simp only [allLeaves, List.mem_append, or_imp, forall_and] at h
    rw [partsHold, partsHold, settled_of_leaves part h.1, partsHold_of_leaves rest h.2]

end

end Predicate

/-! ### The rows at the end of a path -/

/-- The name of the table that a trail of aliased links ends at. -/
def endName (around : String) : List (String × Link) → String
  | [] => around
  | (aliasName, _) :: rest => endName aliasName rest

/-- The rows at the end of a trail of links, each with the rows on the way to it. -/
def Database.ends (database : Database) (sight : Sight) (around : String) :
    List (String × Link) → List Sight
  | [] => [sight]
  | (aliasName, link) :: rest =>
    (database.linked sight around aliasName link).flatMap fun row =>
      database.ends ((aliasName, row) :: sight) aliasName rest

/-- Nested sub-queries ask whether some or all of the rows at the end of their trail satisfy
the innermost condition. -/
theorem nestedExists_holdsIn (database : Database) (asked : Junction)
    (leaf : String → Predicate) (trail : List (String × Link)) (sight : Sight)
    (around : String) :
    (nestedExists leaf around trail).holdsIn database asked sight =
      asked.decides ((database.ends sight around trail).map
        ((leaf (endName around trail)).holdsIn database asked)) := by
  induction trail generalizing sight around with
  | nil => exact (Junction.decides_singleton asked _).symm
  | cons hop rest ih =>
    obtain ⟨aliasName, link⟩ := hop
    rw [nestedExists, existsPredicate_holdsIn, Database.ends, endName, List.map_flatMap,
      Junction.decides_flatMap]
    simp only [ih]

/-- A condition over a path is settled exactly when some row at the end of the path satisfies
it while none fails it, or none satisfies it while some row fails it. Without such rows it is
not settled, nor with rows that answer both ways. -/
theorem settled_path_iff (database : Database) (sight : Sight) (around : String)
    (trail : List (String × Link)) (field : String → Argument) (operator : Operator)
    (value : Argument) :
    (nestedExists (fun name => comparisonPredicate (field name) (some operator) value)
        around trail).Settled database sight ↔
      ((∃ rows ∈ database.ends sight around trail,
          database.comparisonTruth rows (field (endName around trail)) operator value = .holds) ↔
        ∀ rows ∈ database.ends sight around trail,
          database.comparisonTruth rows (field (endName around trail)) operator value ≠
            .fails) := by
  have hsome : Junction.or.decides ((database.ends sight around trail).map
        ((comparisonPredicate (field (endName around trail)) (some operator) value).holdsIn
          database .or)) = true ↔
      ∃ rows ∈ database.ends sight around trail,
        database.comparisonTruth rows (field (endName around trail)) operator value = .holds := by
    simp [Junction.decides, comparisonPredicate_holdsIn, Junction.accepts]
  have hall : Junction.and.decides ((database.ends sight around trail).map
        ((comparisonPredicate (field (endName around trail)) (some operator) value).holdsIn
          database .and)) = true ↔
      ∀ rows ∈ database.ends sight around trail,
        database.comparisonTruth rows (field (endName around trail)) operator value ≠
          .fails := by
    simp [Junction.decides, comparisonPredicate_holdsIn, Junction.accepts]
  rw [Predicate.Settled, nestedExists_holdsIn, nestedExists_holdsIn, Bool.eq_iff_iff, hsome, hall]

end ScopeQuery
