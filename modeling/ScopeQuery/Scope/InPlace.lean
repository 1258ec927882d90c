import ScopeQuery.Scope.Basic

/-!
# Negating in place

Negation as its caller sees it: the tree is changed where it stands, and an error returns the
caller to whatever the tree has become by then. A scope negates a copy of its children, one after
another up to the first that fails, and takes the copy over only when all of them are negated.
-/

namespace ScopeQuery

/-- Negates a condition where it stands. -/
def Condition.negateInPlace (condition : Condition) : Except QueryError Unit × Condition :=
  match condition.negate with
  | .ok negated => (.ok (), negated)
  | .error error => (.error error, condition)

namespace ScopeTree

mutual

/-- Negates a tree where it stands. -/
def negateInPlace : ScopeTree → Except QueryError Unit × ScopeTree
  | .condition c => (c.negateInPlace.1, .condition c.negateInPlace.2)
  | .scope junction children =>
    match negateEach children with
    | (.ok (), copy) => (.ok (), .scope junction.flip copy)
    | (.error error, _) => (.error error, .scope junction children)

/-- Negates trees where they stand, up to the first that fails. Those in front of it stay
negated. -/
def negateEach : List ScopeTree → Except QueryError Unit × List ScopeTree
  | [] => (.ok (), [])
  | tree :: rest =>
    match negateInPlace tree with
    | (.ok (), negated) => ((negateEach rest).1, negated :: (negateEach rest).2)
    | (.error error, left) => (.error error, left :: rest)

end

end ScopeTree

end ScopeQuery
