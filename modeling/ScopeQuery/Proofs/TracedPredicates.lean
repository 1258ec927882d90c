import ScopeQuery.Sql.Syntax
import ScopeQuery.Condition.Basic
import ScopeQuery.Vocabulary.Junction

/-!
# Traced predicates

Predicates that carry, at each part that is no group, the condition the part comes
from. Erasing the conditions gives the predicate back, and a verdict on each
condition gives a verdict on the predicate, every group read with its own junction.
-/

namespace ScopeQuery

namespace Junction

/-- The truth of joined statements: "and" asks for all of them, "or" for one. -/
def decides : Junction → List Bool → Bool
  | .and, verdicts => verdicts.all id
  | .or, verdicts => verdicts.any id

/-- The first verdict decides when it is false under "and" or true under "or", and
otherwise the verdicts after it do. -/
theorem decides_cons (junction : Junction) (verdict : Bool) (verdicts : List Bool) :
    junction.decides (verdict :: verdicts) =
      if verdict == (junction == .or) then verdict else junction.decides verdicts := by
  cases junction <;> cases verdict <;> simp [decides]

end Junction

/-- A predicate with the condition that each part comes from. -/
inductive TracedPredicate where
  /-- The predicate of a condition. -/
  | leaf (condition : Condition) (predicate : Predicate)
  /-- Predicates joined into one. -/
  | group (junction : Junction) (parts : List TracedPredicate)

namespace TracedPredicate

mutual

/-- The predicate without the conditions. -/
def predicate : TracedPredicate → Predicate
  | .leaf _ predicate => predicate
  | .group junction parts => .group junction (predicates parts)

/-- Several predicates without the conditions. -/
def predicates : List TracedPredicate → List Predicate
  | [] => []
  | part :: rest => predicate part :: predicates rest

end

mutual

/-- The conditions with their predicates, from left to right. -/
def leaves : TracedPredicate → List (Condition × Predicate)
  | .leaf condition predicate => [(condition, predicate)]
  | .group _ parts => allLeaves parts

/-- The conditions with their predicates of several traced ones, in order. -/
def allLeaves : List TracedPredicate → List (Condition × Predicate)
  | [] => []
  | part :: rest => leaves part ++ allLeaves rest

end

mutual

/-- The truth of the predicate when each part is as true as its condition. -/
def holds (truth : Condition → Bool) : TracedPredicate → Bool
  | .leaf condition _ => truth condition
  | .group junction parts => junction.decides (verdicts truth parts)

/-- The truth of several predicates, in order. -/
def verdicts (truth : Condition → Bool) : List TracedPredicate → List Bool
  | [] => []
  | part :: rest => holds truth part :: verdicts truth rest

end

/-- The conditions of several traced predicates, in order. -/
def conditions (parts : List TracedPredicate) : List Condition := (allLeaves parts).map (·.1)

/-- The leaves of a list are those of its two halves. -/
theorem allLeaves_append (parts rest : List TracedPredicate) :
    allLeaves (parts ++ rest) = allLeaves parts ++ allLeaves rest := by
  induction parts with
  | nil => rfl
  | cons part parts ih => rw [List.cons_append, allLeaves, allLeaves, ih, List.append_assoc]

/-- The leaves of one traced predicate alone. -/
theorem allLeaves_singleton (part : TracedPredicate) : allLeaves [part] = part.leaves := by
  rw [allLeaves, allLeaves, List.append_nil]

/-- The predicates of a list are those of its two halves. -/
theorem predicates_append (parts rest : List TracedPredicate) :
    predicates (parts ++ rest) = predicates parts ++ predicates rest := by
  induction parts with
  | nil => rfl
  | cons part parts ih => rw [List.cons_append, predicates, predicates, ih, List.cons_append]

end TracedPredicate

end ScopeQuery
