import ScopeQuery.Entity.Related
import ScopeQuery.Storage.Codec

/-!
# Compiling conditions

The predicate a condition on a field or an expression becomes. A condition on a
field goes through the codec of its entity. A count of related rows needs no
counting when it only asks whether there are any.
-/

namespace ScopeQuery

/-- What a compiler needs to know, with relationships of any kind; unless another kind is given
they are links. -/
structure Compiler (R : Type := Links) where
  /-- The dialect of the statements it makes. -/
  dialect : Dialect
  /-- The codecs of fields. -/
  codecs : Codecs
  /-- The relationships between entities, if paths are to be followed. -/
  links : Option R

/-- A comparison as a predicate. Equality is written without its operator, so that
the value decides between equality, membership and a null test. -/
def comparisonPredicate (field : Argument) (operator : Option Operator) (value : Argument) :
    Predicate :=
  match operator with
  | some .eq => .comparison field none value
  | operator => .comparison field operator value

/-- A storage key, qualified when the entity has an alias. -/
def Entity.qualifyArgument (entity : Entity) (key : Argument) : Argument :=
  match key, entity.aliasName with
  | .literal (.string column), some _ => .text (entity.qualify column)
  | key, _ => key

/-- Whether comparing a count asks only for the presence or the absence of any
row, and for which. -/
def presenceAsked? (operator : Operator) (comparand : Comparand) : Option Bool :=
  match comparand with
  | .scalar (.number n) =>
    match operator with
    | .eq | .lte => if n.isZero then some false else none
    | .lt => if n.eq (Number.ofNat 1) then some false else none
    | .gt | .neq => if n.isZero then some true else none
    | .gte => if n.eq (Number.ofNat 1) then some true else none
    | _ => none
  | _ => none

/-- An expression as a predicate. -/
def Expression.predicate (e : Expression) : Predicate := .fragment (.expression e)

/-- The predicate of a condition on an expression. Without a test the expression
is a predicate itself. -/
def expressionPredicate (e : Expression) (condition : Condition) :
    Except CompileError Predicate :=
  match condition.test with
  | none => .ok e.predicate
  | some (operator, comparand) =>
    match plainArgument comparand with
    | .ok value => .ok (comparisonPredicate (.expression e) (some operator) value)
    | .error error => .error error

namespace Compiler

variable {R : Type}

/-- The predicate of a condition on a field of the entity itself. -/
def fieldPredicate (compiler : Compiler R) (entity : Entity) (field : String)
    (condition : Condition) : Except CompileError Predicate :=
  match compiler.codecs entity.name field with
  | .error error => .error error
  | .ok codec =>
    match codec.store condition.operator condition.comparand with
    | .error error => .error error
    | .ok stored =>
      let key := entity.qualifyArgument stored.key
      match stored.value with
      | none => .ok (Expression.ofTemplate "\x7b\x7b\x7d\x7d" [key]).predicate
      | some value => .ok (comparisonPredicate key stored.operator value)

section Relationships

variable [Relationships R]

/-- The rows a hop leads to. -/
def follow (compiler : Compiler R) (entity : Entity) (hop : String) :
    Except CompileError RelatedRows :=
  match compiler.links with
  | some links => Relationships.follow links entity hop
  | none => .error (.unknownLink entity.name hop)

/-- How far a path leads from an entity. -/
def rank (compiler : Compiler R) (entity : Entity) (path : String) : Nat :=
  match compiler.links with
  | some links => Relationships.rank links entity path
  | none => 0

/-- How far what related rows have to satisfy leads from them. -/
def reach (compiler : Compiler R) (related : RelatedRows) : Nat :=
  ScopeTree.farthest (compiler.rank related.entity) related.selection.children

/-- How far the path after a hop leads, and with it the rows of the hop. -/
def onward (compiler : Compiler R) (entity : Entity) (hop rest : String) : Nat :=
  match compiler.follow entity hop with
  | .ok related => max (compiler.rank related.entity rest) (compiler.reach related) + 1
  | .error _ => 0

variable {compiler : Compiler R} {entity : Entity} {hop : String}

/-- With relationships to follow, paths have the ranks that these give them. -/
theorem rank_of_links {links : R} (h : compiler.links = some links) (entity : Entity) :
    compiler.rank entity = Relationships.rank links entity := by
  funext path
  rw [rank, h]

/-- Going on over a hop leads no farther than the path itself. -/
theorem onward_le (compiler : Compiler R) (entity : Entity) {path hop rest : String}
    (hsplit : splitHop? path = some (hop, rest)) :
    compiler.onward entity hop rest ≤ compiler.rank entity path := by
  unfold onward
  split
  · rename_i related hfollow
    unfold follow at hfollow
    split at hfollow
    · rename_i links hlinks
      have hrest := Relationships.rank_rest hsplit hfollow
      have hrows := Relationships.farthest_selection hsplit hfollow
      rw [reach, rank_of_links hlinks, rank_of_links hlinks]
      exact Nat.max_lt.2 ⟨hrest, hrows⟩
    · cases hfollow
  · exact Nat.zero_le _

/-- The rows of a hop lead less far than going on over it, and so do they with the rest of
the path as one more condition. -/
theorem reach_lt_onward {related : RelatedRows}
    (hfollow : compiler.follow entity hop = .ok related) (rest : String) :
    compiler.reach related < compiler.onward entity hop rest ∧
      ∀ condition : Condition, compiler.reach
        (related.add (.condition (condition.withSubject (.path rest)))) <
          compiler.onward entity hop rest := by
  have honward : compiler.onward entity hop rest =
      max (compiler.rank related.entity rest) (compiler.reach related) + 1 := by
    rw [onward, hfollow]
  refine ⟨by omega, fun condition => ?_⟩
  have hadd : compiler.reach (related.add (.condition (condition.withSubject (.path rest)))) =
      max (compiler.reach related) (compiler.rank related.entity rest) :=
    ScopeTree.farthest_concat _ _ _
  omega

end Relationships

section Links

variable {compiler : Compiler} {entity : Entity} {hop : String} {related : RelatedRows}

/-- Links are followed as they are. -/
theorem follow_of_links {links : Links} (h : compiler.links = some links) (entity : Entity)
    (hop : String) : compiler.follow entity hop = links.follow entity hop := by
  rw [follow, h]
  rfl

/-- The rows a hop leads to are those of a link. -/
theorem exists_link_of_follow (h : compiler.follow entity hop = .ok related) :
    ∃ link : Link, related = link.rows entity hop := by
  cases hlinks : compiler.links with
  | none =>
    rw [follow, hlinks] at h
    cases h
  | some links =>
    rw [follow_of_links hlinks] at h
    unfold Links.follow at h
    split at h
    · rename_i link hlink
      exact ⟨link, (Except.ok.inj h).symm⟩
    · cases h

/-- Rows a hop has just led to have nothing to satisfy yet. -/
theorem follow_children (h : compiler.follow entity hop = .ok related) :
    related.selection.children = [] := by
  obtain ⟨link, rfl⟩ := exists_link_of_follow h
  rfl

end Links

end Compiler

end ScopeQuery
