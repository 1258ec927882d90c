import ScopeQuery.Proofs.HopPaths
import ScopeQuery.Proofs.HopPredicates
import ScopeQuery.Proofs.ImposedConditions

/-!
# Paths become nested sub-queries

A condition on a path over hops becomes one sub-query inside the other. Each is on the
table of its link, under an alias that tells its depth, tied to the row around it, and
the innermost one holds the condition on the field as the codec of its table stores it.
-/

namespace ScopeQuery

/-- The predicate that a link's table has a row, under an alias, that is tied to the row
around it and satisfies a predicate. -/
def existsPredicate (around aliasName : String) (link : Link) (inner : Predicate) : Predicate :=
  .fragment (.expression (.ofTemplate "exists []" [.statement
    { dialect := .generic
      fields := [⟨none, .expression (.ofTemplate "1")⟩]
      tables := [⟨some aliasName, .text link.table⟩]
      wheres :=
        [.fragment (.expression (.ofTemplate "\x7b\x7b\x7d\x7d = \x7b\x7b\x7d\x7d"
          [.text (aliasName ++ "." ++ link.relatedColumn),
            .text (around ++ "." ++ link.parentColumn)])),
        inner] }]))

/-- One sub-query inside the other along aliased links, from the row around them all to
a predicate about the innermost row. -/
def nestedExists (leaf : String → Predicate) (around : String) : List (String × Link) → Predicate
  | [] => leaf around
  | (aliasName, link) :: rest =>
    existsPredicate around aliasName link (nestedExists leaf aliasName rest)

/-- A storage key of the row of an alias. -/
def qualifiedKey (aliasName : String) : Argument → Argument
  | .literal (.string column) => .text (aliasName ++ "." ++ column)
  | key => key

/-- A stored condition as a predicate about the row of an alias. -/
def storedPredicate (stored : StoredCondition) (aliasName : String) : Predicate :=
  match stored.value with
  | none =>
    .fragment (.expression (.ofTemplate "\x7b\x7b\x7d\x7d" [qualifiedKey aliasName stored.key]))
  | some value => comparisonPredicate (qualifiedKey aliasName stored.key) stored.operator value

/-- The table that a trail of links ends at. -/
def trailTable (entity : String) : List Link → String
  | [] => entity
  | link :: rest => trailTable link.table rest

/-- An entity with an alias puts it in front of its keys. -/
theorem Entity.qualifyArgument_of_alias {entity : Entity} {aliasName : String}
    (h : entity.aliasName = some aliasName) (key : Argument) :
    entity.qualifyArgument key = qualifiedKey aliasName key := by
  unfold qualifyArgument qualifiedKey
  rw [h]
  split
  · simp [qualify, reference, h]
  · rename_i hother
    split
    · rename_i column
      exact absurd rfl (hother column aliasName rfl)
    · rfl

namespace Compiler

variable {compiler : Compiler}

/-- A condition on a field of an aliased entity is stored under the alias. -/
theorem fieldPredicate_of_alias {entity : Entity} {aliasName field : String}
    {condition : Condition} {codec : Codec} {stored : StoredCondition}
    (halias : entity.aliasName = some aliasName)
    (hcodec : compiler.codecs entity.name field = .ok codec)
    (hstored : codec.store condition.operator condition.comparand = .ok stored) :
    compiler.fieldPredicate entity field condition = .ok (storedPredicate stored aliasName) := by
  unfold fieldPredicate storedPredicate
  rw [hcodec]
  dsimp only
  rw [hstored]
  dsimp only
  rw [Entity.qualifyArgument_of_alias halias]
  cases stored.value <;> rfl

variable {links : Links} {operator : Operator} {comparand : Comparand}

/-- One hop becomes one sub-query around what the rest of the path becomes. -/
theorem conditionPredicate_hop (hlinks : compiler.links = some links)
    (hresolved : ∀ compute, comparand ≠ .computed compute) {parent : Entity} {hop rest : String}
    {link : Link} {inner : Predicate} (hhop : hasHop hop = false) (hrest : rest ≠ countSegment)
    (hlink : links.get? parent.name hop = some link)
    (hinner : compiler.conditionPredicate (parent.reached hop link.table)
      ⟨some (.path rest), some (operator, comparand)⟩ = .ok (some inner)) :
    compiler.conditionPredicate parent
        ⟨some (.path (hop ++ "/" ++ rest)), some (operator, comparand)⟩ =
      .ok (some (existsPredicate parent.reference (Entity.hopAlias hop (parent.depth + 1)) link
        inner)) := by
  have hfollow : compiler.follow parent hop = .ok (link.rows parent hop) := by
    rw [follow_of_links hlinks, Links.follow, hlink]
  have hentity : (link.rows parent hop).entity = parent.reached hop link.table := rfl
  rw [conditionPredicate_of_resolved (Condition.resolved_of_comparand hresolved),
    resolvedPredicate_of_hop rfl (splitHop?_of_hop hhop rest), hopPredicate_of_rest hfollow hrest,
    Condition.withSubject, hentity, hinner]
  rfl

/-- Below an aliased table, a path becomes one sub-query for each hop. -/
theorem conditionPredicate_hopPath (hlinks : compiler.links = some links)
    (hresolved : ∀ compute, comparand ≠ .computed compute) {field : String}
    (hfield : hasHop field = false) (hcount : field ≠ countSegment) {codec : Codec}
    {stored : StoredCondition} (hstored : codec.store (some operator) (some comparand) = .ok stored)
    (hops : List String) {parent : Entity} {aliasName : String} {trail : List Link}
    (halias : parent.aliasName = some aliasName) (hhops : ∀ hop ∈ hops, hasHop hop = false)
    (htrail : links.trail parent.name hops = some trail)
    (hcodec : compiler.codecs (trailTable parent.name trail) field = .ok codec) :
    compiler.conditionPredicate parent
        ⟨some (.path (hopPath field hops)), some (operator, comparand)⟩ =
      .ok (some (nestedExists (storedPredicate stored) aliasName
        ((hopAliases parent.depth hops).zip trail))) := by
  -- Each hop leads to a table with an alias, which is all the next hop needs of its parent.
  induction hops generalizing parent aliasName trail with
  | nil =>
    obtain rfl := Option.some.inj htrail
    have hleaf : compiler.fieldPredicate parent field
        ⟨some (.path field), some (operator, comparand)⟩ =
          .ok (storedPredicate stored aliasName) :=
      fieldPredicate_of_alias halias hcodec hstored
    rw [conditionPredicate_of_resolved (Condition.resolved_of_comparand hresolved), hopPath,
      resolvedPredicate_of_field rfl (splitHop?_of_field hfield), hleaf]
    rfl
  | cons hop rest ih =>
    rw [Links.trail] at htrail
    split at htrail
    · simp at htrail
    · rename_i link hlink
      obtain ⟨tail, htail, rfl⟩ := Option.map_eq_some_iff.1 htrail
      have hinner : compiler.conditionPredicate (parent.reached hop link.table)
          ⟨some (.path (hopPath field rest)), some (operator, comparand)⟩ =
            .ok (some (nestedExists (storedPredicate stored)
              (Entity.hopAlias hop (parent.depth + 1))
              ((hopAliases (parent.depth + 1) rest).zip tail))) :=
        ih rfl (fun later hlater => hhops later (by simp [hlater])) htail hcodec
      have hreference : parent.reference = aliasName := by
        rw [Entity.reference, halias, Option.getD_some]
      rw [hopPath, conditionPredicate_hop hlinks hresolved (hhops hop (by simp))
        (hopPath_ne_count hcount rest) hlink hinner, hreference]
      rfl

/-- From the selected entity, a path becomes one sub-query for each of its hops. -/
theorem conditionPredicate_rootPath (hlinks : compiler.links = some links)
    (hresolved : ∀ compute, comparand ≠ .computed compute) {name field : String}
    {hops : List String} {trail : List Link} (hne : hops ≠ [])
    (hhops : ∀ hop ∈ hops, hasHop hop = false) (hfield : hasHop field = false)
    (hcount : field ≠ countSegment) (htrail : links.trail name hops = some trail) {codec : Codec}
    (hcodec : compiler.codecs (trailTable name trail) field = .ok codec)
    {stored : StoredCondition}
    (hstored : codec.store (some operator) (some comparand) = .ok stored) :
    compiler.conditionPredicate (.root name)
        ⟨some (.path (hopPath field hops)), some (operator, comparand)⟩ =
      .ok (some (nestedExists (storedPredicate stored) name ((hopAliases 0 hops).zip trail))) := by
  cases hops with
  | nil => exact absurd rfl hne
  | cons hop rest =>
    rw [Links.trail] at htrail
    split at htrail
    · simp at htrail
    · rename_i link hlink
      obtain ⟨tail, htail, rfl⟩ := Option.map_eq_some_iff.1 htrail
      have hinner : compiler.conditionPredicate ((Entity.root name).reached hop link.table)
          ⟨some (.path (hopPath field rest)), some (operator, comparand)⟩ =
            .ok (some (nestedExists (storedPredicate stored) (Entity.hopAlias hop 1)
              ((hopAliases 1 rest).zip tail))) :=
        conditionPredicate_hopPath hlinks hresolved hfield hcount hstored rest rfl
          (fun later hlater => hhops later (by simp [hlater])) htail hcodec
      rw [hopPath]
      exact conditionPredicate_hop hlinks hresolved (hhops hop (by simp))
        (hopPath_ne_count hcount rest) hlink hinner

/-- A computed comparand that gives a fitting value compiles as the value does. -/
theorem conditionPredicate_of_computed {compute : ConditionHead → Option Value} {path : String}
    {entity : Entity} {value : Value}
    (hvalue : compute ⟨some (.path path), some operator⟩ = some value)
    (hfits : Comparand.check operator (.ofValue value) = .ok ()) :
    compiler.conditionPredicate entity
        ⟨some (.path path), some (operator, .computed compute)⟩ =
      compiler.conditionPredicate entity
        ⟨some (.path path), some (operator, .ofValue value)⟩ := by
  have hcomputed : Condition.resolved ⟨some (.path path), some (operator, .computed compute)⟩ =
      .ok (some ⟨some (.path path), some (operator, .ofValue value)⟩) := by
    rw [Condition.resolved_of_computed rfl, Condition.head, Condition.operator, Option.map_some,
      hvalue, Condition.withComputed, hfits]
  rw [conditionPredicate_of_resolved hcomputed, conditionPredicate_of_resolved
    (Condition.resolved_of_comparand (Comparand.ofValue_ne_computed value))]

/-- A path over hops compiles to one sub-query for each hop, the next one inside the one
before: on the table of the hop's link, under an alias of its own, tied to the row around
it, and in the innermost one the condition on the field, as the codec of the last table
stores it. The aliases differ from each other and from the selected entity, unless its own
name is an underscore, a character and a number. A computed comparand is called once, with
the whole path, and its value compiles in its place. -/
theorem hopPath_compiles_to_nestedExists (compiler : Compiler) (links : Links)
    (hlinks : compiler.links = some links) (name field : String) (hops : List String)
    (hne : hops ≠ []) (hhops : ∀ hop ∈ hops, hasHop hop = false)
    (hfield : hasHop field = false) (hcount : field ≠ countSegment) (trail : List Link)
    (htrail : links.trail name hops = some trail) (operator : Operator) (comparand : Comparand)
    (hresolved : ∀ compute, comparand ≠ .computed compute) (codec : Codec)
    (hcodec : compiler.codecs (trailTable name trail) field = .ok codec)
    (stored : StoredCondition)
    (hstored : codec.store (some operator) (some comparand) = .ok stored) :
    (∀ statement : Statement, compiler.fillWhere statement
        ⟨name, [.condition ⟨some (.path (hopPath field hops)), some (operator, comparand)⟩]⟩ =
      .ok (statement.addWheres
        [nestedExists (storedPredicate stored) name ((hopAliases 0 hops).zip trail)])) ∧
    ((hopAliases 0 hops).zip trail).length = hops.length ∧
    (hopAliases 0 hops).Nodup ∧
    (∀ aliasName ∈ hopAliases 0 hops, aliasName = name →
      ∃ (c : Char) (n : Nat), name = String.ofList ('_' :: c :: (toString n).toList)) ∧
    ∀ compute,
      (compiler.notedPredicate (.root name)
        ⟨some (.path (hopPath field hops)), some (operator, .computed compute)⟩).calls =
          [⟨some (.path (hopPath field hops)), some operator⟩] ∧
      (compiler.notedPredicate (.root name)
        ⟨some (.path (hopPath field hops)), some (operator, .computed compute)⟩).result =
          compiler.conditionPredicate (.root name)
            ⟨some (.path (hopPath field hops)), some (operator, .computed compute)⟩ ∧
      ∀ value, compute ⟨some (.path (hopPath field hops)), some operator⟩ = some value →
        comparand = .ofValue value → Comparand.check operator comparand = .ok () →
        compiler.conditionPredicate (.root name)
            ⟨some (.path (hopPath field hops)), some (operator, .computed compute)⟩ =
          .ok (some (nestedExists (storedPredicate stored) name
            ((hopAliases 0 hops).zip trail))) := by
  have hpath := conditionPredicate_rootPath hlinks hresolved hne hhops hfield hcount htrail hcodec
    hstored
  refine ⟨fun statement => ?_, ?_, hopAliases_nodup 0 hops, fun aliasName hin hname => ?_,
    fun compute => ⟨?_, rfl, fun value hvalue hcomparand hfits => ?_⟩⟩
  · rw [fillWhere, selectionPredicates, Selection.scope, scopePredicates_condition, hpath]
    rfl
  · rw [List.length_zip, hopAliases_length, Links.trail_length htrail, Nat.min_self]
  · obtain ⟨hop, deep, -, hdeep⟩ := hopAliases_deeper hin
    exact ⟨hop.toList.head?.getD 'r', deep, by rw [← hname, hdeep, Entity.hopAlias]⟩
  · rw [notedPredicate_calls, Condition.calls_of_computed rfl]
    rfl
  · subst hcomparand
    rw [conditionPredicate_of_computed hvalue hfits, hpath]

/-- The path from an employee over the manager's manager to a name, on a link of a table
to itself: two sub-queries on the one table, under two aliases. -/
theorem hopPath_compiles_to_nestedExists_managers :
    Compiler.fillWhere
        ⟨.generic, .passthrough,
          some (Links.empty.insert "employee" "manager" ⟨"employee", "id", "manager_id"⟩)⟩
        (.empty .generic)
        ⟨"employee", [.condition
          ⟨some (.path "manager/manager/name"), some (.eq, .scalar (.string "ann"))⟩]⟩ =
      .ok ((Statement.empty .generic).addWheres
        [existsPredicate "employee" "_m1" ⟨"employee", "id", "manager_id"⟩
          (existsPredicate "_m1" "_m2" ⟨"employee", "id", "manager_id"⟩
            (.comparison (.text "_m2.name") none (.literal (.string "ann"))))]) :=
  (hopPath_compiles_to_nestedExists _ _ rfl "employee" "name" ["manager", "manager"] (by simp)
    (by decide) (by decide) (by decide)
    [⟨"employee", "id", "manager_id"⟩, ⟨"employee", "id", "manager_id"⟩] rfl .eq
    (.scalar (.string "ann")) (by simp) (.passthrough "name") rfl _ rfl).1 (.empty .generic)

end Compiler

end ScopeQuery
