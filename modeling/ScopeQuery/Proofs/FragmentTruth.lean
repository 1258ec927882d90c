import ScopeQuery.Matching.Relation
import ScopeQuery.Sql.Predicate

/-!
# Truth of fragments

How a database answers the fragment of a comparison. An answer is true, false or unknown:
comparing with null is unknown, membership is the disjunction of equalities, and a denied
test turns true and false round. The relations between two values that are not null are
those of the matcher, so that only the treatment of null can tell the two apart. The
template of an operator asks for the same test in every dialect.
-/

namespace ScopeQuery

/-- The answer of a database to a test. -/
inductive Truth where
  /-- The test is true. -/
  | holds
  /-- The test is false. -/
  | fails
  /-- The test is neither, for want of a value. -/
  | unknown
deriving DecidableEq

namespace Truth

/-- The answer to a test that is decided. -/
def ofBool (decided : Bool) : Truth := if decided then .holds else .fails

/-- The answer to the opposite test. -/
def not : Truth → Truth
  | .holds => .fails
  | .fails => .holds
  | .unknown => .unknown

/-- The answer to the disjunction of two tests. -/
def or : Truth → Truth → Truth
  | .holds, _ => .holds
  | .fails, answer => answer
  | .unknown, .holds => .holds
  | .unknown, _ => .unknown

/-- The answer to a test that may be denied. -/
def denyIf (denied : Bool) (answer : Truth) : Truth := if denied then answer.not else answer

@[simp] theorem ofBool_eq_holds {decided : Bool} : ofBool decided = .holds ↔ decided = true := by
  cases decided <;> simp [ofBool]

@[simp] theorem ofBool_eq_fails {decided : Bool} : ofBool decided = .fails ↔ decided = false := by
  cases decided <;> simp [ofBool]

@[simp] theorem not_eq_holds {answer : Truth} : answer.not = .holds ↔ answer = .fails := by
  cases answer <;> simp [not]

@[simp] theorem or_eq_holds {left right : Truth} :
    left.or right = .holds ↔ left = .holds ∨ right = .holds := by
  cases left <;> cases right <;> simp [or]

@[simp] theorem or_eq_fails {left right : Truth} :
    left.or right = .fails ↔ left = .fails ∧ right = .fails := by
  cases left <;> cases right <;> simp [or]

/-- A decided test that may be denied is true when it is decided the other way than it is
denied. -/
theorem denyIf_ofBool_eq_holds (denied decided : Bool) :
    (ofBool decided).denyIf denied = .holds ↔ (decided != denied) = true := by
  cases denied <;> cases decided <;> simp [denyIf, ofBool, not]

end Truth

/-- A relation of a database between the value of a row and a value. -/
inductive SqlRelation where
  /-- Equality. -/
  | equality
  /-- The order an operator asks for. -/
  | order (operator : Operator)
  /-- Matching a wildcard pattern. -/
  | wildcards
  /-- Containing a match of a regular expression. -/
  | regex

/-- Whether a value matches a pattern; without a text on both sides, or without a valid
pattern, there is no answer. -/
def patternTruth (matched : String → String → Except MatchError Bool) (left right : Value) :
    Truth :=
  match left.patternText?, right.string? with
  | some text, some pattern =>
    match matched text pattern with
    | .ok result => .ofBool result
    | .error _ => .unknown
  | _, _ => .unknown

/-- The answer to a comparison of two values, which is unknown when either is null. -/
def unlessNull (left right : Value) (answer : Truth) : Truth :=
  if left.isNull || right.isNull then .unknown else answer

/-- Whether two values are equal. -/
def equalityTruth (left right : Value) : Truth := unlessNull left right (.ofBool (left.eq right))

/-- Whether a value equals one of several. -/
def memberTruth (left : Value) : List Value → Truth
  | [] => .fails
  | item :: rest => (equalityTruth left item).or (memberTruth left rest)

/-- Whether two values stand in a relation. -/
def SqlRelation.truth (settings : MatchSettings) (left right : Value) : SqlRelation → Truth
  | .equality => equalityTruth left right
  | .order operator => unlessNull left right (match left.compare right with
    | some found => .ofBool (operator.admits found)
    | none => .unknown)
  | .wildcards => unlessNull left right (patternTruth (matchesWildcards settings) left right)
  | .regex => unlessNull left right (patternTruth (matchesRegex settings) left right)

/-- What a fragment asks about a field. -/
inductive FragmentTest where
  /-- Nothing, the answer is given. -/
  | constant (answer : Bool)
  /-- Whether the field is null. -/
  | nullTest (denied : Bool)
  /-- Whether the field stands in a relation to a value. -/
  | relation (denied : Bool) (relation : SqlRelation)
  /-- Whether the field is a member of a list. -/
  | membership (denied : Bool)

/-- What the template of a fragment asks, in the spelling of any database. -/
def FragmentTest.ofTemplate? (template : String) : Option FragmentTest :=
  match template with
  | "1 = 1" => some (.constant true)
  | "1 = 0" => some (.constant false)
  | "\x7b\x7b\x7d\x7d is null" => some (.nullTest false)
  | "\x7b\x7b\x7d\x7d is not null" => some (.nullTest true)
  | "\x7b\x7b\x7d\x7d in []" => some (.membership false)
  | "\x7b\x7b\x7d\x7d not in []" => some (.membership true)
  | "\x7b\x7b\x7d\x7d = []" => some (.relation false .equality)
  | "\x7b\x7b\x7d\x7d != []" => some (.relation true .equality)
  | "\x7b\x7b\x7d\x7d > []" => some (.relation false (.order .gt))
  | "\x7b\x7b\x7d\x7d >= []" => some (.relation false (.order .gte))
  | "\x7b\x7b\x7d\x7d < []" => some (.relation false (.order .lt))
  | "\x7b\x7b\x7d\x7d <= []" => some (.relation false (.order .lte))
  | "\x7b\x7b\x7d\x7d like []" => some (.relation false .wildcards)
  | "\x7b\x7b\x7d\x7d like [] escape '\\'" => some (.relation false .wildcards)
  | "\x7b\x7b\x7d\x7d ilike []" => some (.relation false .wildcards)
  | "\x7b\x7b\x7d\x7d not like []" => some (.relation true .wildcards)
  | "\x7b\x7b\x7d\x7d not like [] escape '\\'" => some (.relation true .wildcards)
  | "\x7b\x7b\x7d\x7d not ilike []" => some (.relation true .wildcards)
  | "\x7b\x7b\x7d\x7d regexp []" => some (.relation false .regex)
  | "\x7b\x7b\x7d\x7d ~ []" => some (.relation false .regex)
  | "regexp_like(\x7b\x7b\x7d\x7d, [])" => some (.relation false .regex)
  | "\x7b\x7b\x7d\x7d not regexp []" => some (.relation true .regex)
  | "\x7b\x7b\x7d\x7d !~ []" => some (.relation true .regex)
  | "not regexp_like(\x7b\x7b\x7d\x7d, [])" => some (.relation true .regex)
  | _ => none

/-- What a comparison with an operator asks. -/
def FragmentTest.ofOperator : Operator → FragmentTest
  | .eq => .relation false .equality
  | .neq => .relation true .equality
  | .gt => .relation false (.order .gt)
  | .gte => .relation false (.order .gte)
  | .lt => .relation false (.order .lt)
  | .lte => .relation false (.order .lte)
  | .like => .relation false .wildcards
  | .notLike => .relation true .wildcards
  | .isIn => .membership false
  | .notIn => .membership true
  | .regexp => .relation false .regex
  | .notRegexp => .relation true .regex

/-- In every dialect the template of a comparison asks what its operator does. -/
theorem FragmentTest.ofTemplate?_comparisonTemplate (operator : Operator) (dialect : Dialect) :
    ofTemplate? (comparisonTemplate operator dialect) = some (ofOperator operator) := by
  cases operator <;> cases dialect <;> rfl

/-- The values of an argument that lists some. -/
def Argument.items? : Argument → Option (List Value)
  | .literal (.array items) => some items
  | .list arguments => arguments.mapM fun
    | .literal value => some value
    | _ => none
  | _ => none

/-- The answer of a database to a fragment, given the value of each field in a row. -/
def Expression.truth? (settings : MatchSettings) (column : Argument → Value) (e : Expression) :
    Option Truth :=
  match e.template.bind FragmentTest.ofTemplate?, e.operands with
  | some (.constant answer), [] => some (.ofBool answer)
  | some (.nullTest denied), [field] => some ((Truth.ofBool (column field).isNull).denyIf denied)
  | some (.relation denied relation), [field, .literal value] =>
    some ((relation.truth settings (column field) value).denyIf denied)
  | some (.membership denied), [field, list] =>
    list.items?.map fun items => (memberTruth (column field) items).denyIf denied
  | _, _ => none

end ScopeQuery
