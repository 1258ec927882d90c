import ScopeQuery.Entity.Basic
import ScopeQuery.Error.Compile
import ScopeQuery.Scope.Reach
import ScopeQuery.Sql.Builder

/-!
# Related rows

The relationships between entities and the rows a hop leads to. Relationships of any
kind lead a hop to rows or to an error. Links are those that keep a table and two columns
for each hop: the related rows are a sub-query on the linked table under an alias of its
own, with the correlation to the parent row as its first predicate. The alias holds the
depth, so aliases along one path differ.
-/

namespace ScopeQuery

/-- The rows a hop leads to. -/
structure RelatedRows where
  /-- The entity of the rows. -/
  entity : Entity
  /-- The sub-query, correlated with the parent row. -/
  statement : Statement
  /-- What the rows have to satisfy besides. -/
  selection : Selection

/-- What a condition on a path of an entity leads on to: a condition on the rest of the path, and
those that the related rows have to satisfy. -/
def leadsTo (follow : Entity → String → Except CompileError RelatedRows) :
    Entity × String → List (Entity × String)
  | (parent, path) =>
    match splitHop? path with
    | none => []
    | some (hop, rest) =>
      match follow parent hop with
      | .error _ => []
      | .ok related =>
        (rest :: ScopeTree.allPaths related.selection.children).map (related.entity, ·)

/-- Relationships between entities. A hop from an entity leads to related rows, with any
statement and anything to satisfy, or to any error. A compiler goes on from a condition for as
long as it leads on to others, so that has to come to an end. -/
class Relationships (R : Type) where
  /-- The rows a hop from an entity leads to. -/
  follow : R → Entity → String → Except CompileError RelatedRows
  /-- What conditions lead on to comes to an end. -/
  ends (relationships : R) :
    WellFounded fun next place => next ∈ leadsTo (follow relationships) place

/-- What conditions lead on to comes to an end where the paths get smaller. -/
theorem leadsTo_ends {follow : Entity → String → Except CompileError RelatedRows}
    (size : String → Nat)
    (h : ∀ {parent path hop rest related}, splitHop? path = some (hop, rest) →
      follow parent hop = .ok related →
        size rest < size path ∧
          ∀ other ∈ ScopeTree.allPaths related.selection.children, size other < size path) :
    WellFounded fun next place => next ∈ leadsTo follow place := by
  refine Subrelation.wf ?_ (measure fun place : Entity × String => size place.2).wf
  intro next place hnext
  obtain ⟨parent, path⟩ := place
  rw [leadsTo] at hnext
  split at hnext
  · cases hnext
  · rename_i hop rest hsplit
    split at hnext
    · cases hnext
    · rename_i related hfollow
      obtain ⟨other, hother, rfl⟩ := List.mem_map.1 hnext
      obtain ⟨hrest, hrows⟩ := h hsplit hfollow
      obtain rfl | hother := List.mem_cons.1 hother
      · exact hrest
      · exact hrows other hother

namespace Relationships

variable {R : Type} [Relationships R]

/-- How far a condition on a path of an entity leads: farther than all that it leads on to. -/
def distance (relationships : R) (place : Entity × String) : Nat :=
  ((leadsTo (follow relationships) place).attach.map fun next =>
    distance relationships next.1 + 1).max?.getD 0
termination_by (ends relationships).wrap place
decreasing_by exact next.2

/-- What a condition leads on to leads less far. -/
theorem distance_lt {relationships : R} {place next : Entity × String}
    (h : next ∈ leadsTo (follow relationships) place) :
    distance relationships next < distance relationships place := by
  rw [distance.eq_1 relationships place]
  exact List.le_max?_getD_of_mem (List.mem_map.2 ⟨⟨next, h⟩, List.mem_attach _ _, rfl⟩)

/-- How far a path leads from an entity. -/
def rank (relationships : R) (entity : Entity) (path : String) : Nat :=
  distance relationships (entity, path)

variable {relationships : R} {parent : Entity} {path hop rest : String} {related : RelatedRows}

/-- The rest of a path and the paths that the related rows have to satisfy conditions on lead less
far. -/
theorem rank_lt (hsplit : splitHop? path = some (hop, rest))
    (hfollow : follow relationships parent hop = .ok related) {other : String}
    (hother : other ∈ rest :: ScopeTree.allPaths related.selection.children) :
    rank relationships related.entity other < rank relationships parent path := by
  refine distance_lt ?_
  rw [leadsTo, hsplit]
  dsimp only
  rw [hfollow]
  exact List.mem_map_of_mem hother

/-- The rest of a path leads less far. -/
theorem rank_rest (hsplit : splitHop? path = some (hop, rest))
    (hfollow : follow relationships parent hop = .ok related) :
    rank relationships related.entity rest < rank relationships parent path :=
  rank_lt hsplit hfollow List.mem_cons_self

/-- What the related rows have to satisfy leads less far. -/
theorem farthest_selection (hsplit : splitHop? path = some (hop, rest))
    (hfollow : follow relationships parent hop = .ok related) :
    ScopeTree.farthest (rank relationships related.entity) related.selection.children <
      rank relationships parent path :=
  ScopeTree.farthest_lt (Nat.zero_lt_of_lt (rank_rest hsplit hfollow))
    fun _ hother => rank_lt hsplit hfollow (List.mem_cons_of_mem _ hother)

end Relationships

/-- A link to another table. -/
structure Link where
  /-- The linked table. -/
  table : String
  /-- The column of the linked table. -/
  relatedColumn : String
  /-- The column of the entity itself that it equals. -/
  parentColumn : String
deriving DecidableEq

/-- The links of entities, by entity and hop. -/
structure Links where
  /-- The links; a later one stands first. -/
  entries : List ((String × String) × Link)

/-- The predicate that ties a related row to its parent row. -/
def Link.correlation (link : Link) (parent related : Entity) : Predicate :=
  .fragment (.expression (.ofTemplate "\x7b\x7b\x7d\x7d = \x7b\x7b\x7d\x7d"
    [.text (related.qualify link.relatedColumn), .text (parent.qualify link.parentColumn)]))

/-- The rows a link leads to from a parent. -/
def Link.rows (link : Link) (parent : Entity) (hop : String) : RelatedRows :=
  let related := parent.reached hop link.table
  { entity := related
    statement :=
      { dialect := .generic
        tables := [⟨related.aliasName, .text link.table⟩]
        wheres := [link.correlation parent related] }
    selection := .all related.name }

namespace Links

/-- No links. -/
def empty : Links := ⟨[]⟩

/-- A link of an entity, in place of an earlier one of the same hop. -/
def insert (links : Links) (entity hop : String) (link : Link) : Links :=
  ⟨((entity, hop), link) :: links.entries⟩

/-- The link of an entity under a hop. -/
def get? (links : Links) (entity hop : String) : Option Link :=
  links.entries.lookup (entity, hop)

/-- The rows a hop leads to; the entity has to have the link. -/
def follow (links : Links) (parent : Entity) (hop : String) : Except CompileError RelatedRows :=
  match links.get? parent.name hop with
  | some link => .ok (link.rows parent hop)
  | none => .error (.unknownLink parent.name hop)

/-- Rows a hop has just led to have nothing to satisfy yet. -/
theorem follow_children {links : Links} {parent : Entity} {hop : String}
    {related : RelatedRows} (h : links.follow parent hop = .ok related) :
    related.selection.children = [] := by
  unfold follow at h
  split at h
  · obtain rfl := Except.ok.inj h
    rfl
  · simp at h

/-- Over links a path gets shorter with every hop. -/
instance : Relationships Links where
  follow := follow
  ends links := leadsTo_ends (fun path => path.toList.length) fun hsplit hfollow => by
    rw [follow_children hfollow]
    exact ⟨splitHop?_length hsplit, by simp [ScopeTree.allPaths, ScopeTree.allLeaves]⟩

end Links

namespace RelatedRows

/-- One more tree the rows have to satisfy. -/
def add (related : RelatedRows) (tree : ScopeTree) : RelatedRows :=
  { related with selection := related.selection.add tree }

/-- The sub-query with further predicates and one selected expression. -/
def subQuery (related : RelatedRows) (predicates : List Predicate) (selected : String) :
    Statement :=
  let filled := related.statement.addWheres predicates
  { filled with fields := filled.fields ++ [⟨none, .expression (.ofTemplate selected)⟩] }

/-- The fragment that holds when a related row satisfies the predicates. -/
def existsWith (related : RelatedRows) (predicates : List Predicate) : Expression :=
  .ofTemplate "exists []" [.statement (related.subQuery predicates "1")]

/-- The fragment that counts the related rows that satisfy the predicates. -/
def countWith (related : RelatedRows) (predicates : List Predicate) : Expression :=
  .ofTemplate "[]" [.statement (related.subQuery predicates "count(*)")]

end RelatedRows

end ScopeQuery
