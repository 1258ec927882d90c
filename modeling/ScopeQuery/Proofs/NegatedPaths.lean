import ScopeQuery.Proofs.FilledStatements
import ScopeQuery.Proofs.OppositePredicates

/-!
# Negated conditions on paths

A negated scope compiles to the dual of what the scope compiles to. Negation turns round
every operator and leaves the sub-queries around it as they are, so that it asks for some
related row that fails the condition, not for none that satisfies it. The negated scope
selects the complement exactly where it makes no difference whether some or all related rows
are meant.
-/

namespace ScopeQuery

/-! ### What has an opposite -/

namespace ScopeTree

/-- The opposite of a leaf is the opposite condition. -/
theorem negate_condition_inv {condition : Condition} {negated : ScopeTree}
    (h : negate (.condition condition) = .ok negated) :
    ∃ opposite, condition.negate = .ok opposite ∧ negated = .condition opposite := by
  rw [negate] at h
  split at h
  · rename_i opposite hopposite
    exact ⟨opposite, hopposite, (Except.ok.inj h).symm⟩
  · simp at h

/-- The opposite of a scope has the opposite children under the other junction. -/
theorem negate_scope_inv {junction : Junction} {children : List ScopeTree} {negated : ScopeTree}
    (h : negate (.scope junction children) = .ok negated) :
    ∃ opposites, negateAll children = .ok opposites ∧
      negated = .scope junction.flip opposites := by
  rw [negate] at h
  split at h
  · rename_i opposites hopposites
    exact ⟨opposites, hopposites, (Except.ok.inj h).symm⟩
  · simp at h

/-- Several trees have opposites when the first has one and the others have. -/
theorem negateAll_cons_inv {tree : ScopeTree} {rest negated : List ScopeTree}
    (h : negateAll (tree :: rest) = .ok negated) :
    ∃ opposite opposites, tree.negate = .ok opposite ∧ negateAll rest = .ok opposites ∧
      negated = opposite :: opposites := by
  rw [negateAll] at h
  split at h
  · simp at h
  · rename_i opposite hopposite
    split at h
    · rename_i opposites hopposites
      exact ⟨opposite, opposites, hopposite, hopposites, (Except.ok.inj h).symm⟩
    · simp at h

/-- There is an opposite for each tree. -/
theorem length_negateAll {trees negated : List ScopeTree}
    (h : negateAll trees = .ok negated) : negated.length = trees.length := by
  induction trees generalizing negated with
  | nil =>
    obtain rfl := Except.ok.inj h
    rfl
  | cons tree rest ih =>
    obtain ⟨opposite, opposites, -, hopposites, rfl⟩ := negateAll_cons_inv h
    rw [List.length_cons, List.length_cons, ih hopposites]

end ScopeTree

/-- The opposite of a scope has the opposite tree. -/
theorem Scope.tree_negate {scope negated : Scope} (h : scope.negate = .ok negated) :
    scope.tree.negate = .ok negated.tree := by
  unfold negate at h
  rw [tree, ScopeTree.negate]
  cases hopposites : ScopeTree.negateAll scope.children with
  | error error => simp [hopposites, Except.map] at h
  | ok opposites =>
    rw [hopposites] at h
    obtain rfl := Except.ok.inj h
    rfl

namespace Compiler

variable {compiler : Compiler} {entity : Entity}

/-! ### Settled conditions -/

/-- A condition over a path to a field is settled for a row exactly when some row at the end
of the path satisfies it while none fails it, or none satisfies it while some row fails it. So
it is not settled for a row that the path leads from to no row at all, nor for one that it
leads from to rows on both sides. -/
theorem settled_hopPath_iff {links : Links} {name field : String} {hops : List String}
    {trail : List Link} {operator : Operator} {comparand : Comparand} {codec : Codec}
    {stored : StoredCondition} (hlinks : compiler.links = some links)
    (hplain : ∀ compute, comparand ≠ .computed compute) (hne : hops ≠ [])
    (hhops : ∀ hop ∈ hops, hasHop hop = false) (hfield : hasHop field = false)
    (hcount : field ≠ countSegment) (htrail : links.trail name hops = some trail)
    (hcodec : compiler.codecs (trailTable name trail) field = .ok codec)
    (hshipped : codec.Shipped)
    (hstored : codec.store (some operator) (some comparand) = .ok stored) :
    ∃ predicate value,
      compiler.conditionPredicate (.root name)
        ⟨some (.path (hopPath field hops)), some (operator, comparand)⟩ = .ok (some predicate) ∧
      stored.value = some value ∧
      ∀ (database : Database) (row : Row),
        let ends := database.ends [(name, row)] name ((hopAliases 0 hops).zip trail)
        let key := qualifiedKey (endName name ((hopAliases 0 hops).zip trail)) stored.key
        predicate.Settled database [(name, row)] ↔
          ((∃ rows ∈ ends, database.comparisonTruth rows key operator value = .holds) ↔
            ∀ rows ∈ ends, database.comparisonTruth rows key operator value ≠ .fails) := by
  obtain ⟨hoperator, hvalue⟩ := hshipped.store_shape hstored
  obtain ⟨value, hsome⟩ := Option.isSome_iff_exists.1 hvalue
  have hleaf : storedPredicate stored = fun aliasName =>
      comparisonPredicate (qualifiedKey aliasName stored.key) (some operator) value := by
    funext aliasName
    rw [storedPredicate, hsome, hoperator]
  refine ⟨_, value, conditionPredicate_rootPath hlinks hplain hne hhops hfield hcount htrail hcodec
    hstored, hsome, fun database row => ?_⟩
  rw [hleaf]
  exact settled_path_iff database [(name, row)] name _ (qualifiedKey · stored.key) operator value

/-! ### Opposite trees -/

/-- Groups under opposite junctions are dual when their parts are. -/
theorem groupPredicate_dual {parts opposites : List Predicate}
    (h : List.Forall₂ Predicate.Dual parts opposites) (junction : Junction) :
    Option.Rel Predicate.Dual (groupPredicate junction parts)
      (groupPredicate junction.flip opposites) := by
  cases h with
  | nil => exact .none
  | cons hfirst hrest => exact .some (Predicate.dual_group (.cons hfirst hrest) junction)

/-- One more tree and its opposite keep the predicates of the others dual one by one. -/
theorem treePredicates_cons_paired {tree opposite : ScopeTree} {rest opposites : List ScopeTree}
    (htree : Paired (Option.Rel Predicate.Dual) (compiler.treePredicate entity tree)
      (compiler.treePredicate entity opposite))
    (hrest : Paired (List.Forall₂ Predicate.Dual) (compiler.treePredicates entity rest)
      (compiler.treePredicates entity opposites)) :
    Paired (List.Forall₂ Predicate.Dual) (compiler.treePredicates entity (tree :: rest))
      (compiler.treePredicates entity (opposite :: opposites)) := by
  rw [treePredicates_cons, treePredicates_cons]
  match compiler.treePredicate entity tree, compiler.treePredicate entity opposite, htree with
  | .error _, .error _, _ => trivial
  | .ok _, .ok _, hpart =>
    match compiler.treePredicates entity rest, compiler.treePredicates entity opposites, hrest with
    | .error _, .error _, _ => trivial
    | .ok _, .ok _, hparts =>
      cases hpart with
      | none => exact hparts
      | some hdual => exact .cons hdual hparts

mutual

/-- A tree and its opposite compile to dual predicates, or both to none, or both fail. -/
theorem treePredicate_negate (hcodecs : compiler.codecs.Shipped) (entity : Entity)
    (tree negated : ScopeTree) (hnegate : tree.negate = .ok negated)
    (hsteady : ∀ c ∈ tree.leaves, c.Steady) (hcounts : ∀ c ∈ tree.leaves, c.countsRows = false) :
    Paired (Option.Rel Predicate.Dual) (compiler.treePredicate entity tree)
      (compiler.treePredicate entity negated) := by
  match tree with
  | .condition c =>
    obtain ⟨opposite, hopposite, rfl⟩ := ScopeTree.negate_condition_inv hnegate
    rw [treePredicate_condition, treePredicate_condition]
    exact conditionPredicate_negate hcodecs entity hopposite
      (hsteady c (by simp [ScopeTree.leaves])) (hcounts c (by simp [ScopeTree.leaves]))
  | .scope junction [child] =>
    -- The compiler drops this scope and the one around the opposite.
    obtain ⟨opposites, hopposites, rfl⟩ := ScopeTree.negate_scope_inv hnegate
    obtain ⟨opposite, rest, hopposite, hrest, rfl⟩ := ScopeTree.negateAll_cons_inv hopposites
    obtain rfl := Except.ok.inj hrest
    rw [ScopeTree.leaves, ScopeTree.allLeaves, ScopeTree.allLeaves, List.append_nil] at *
    rw [treePredicate_singleton, treePredicate_singleton]
    exact treePredicate_negate hcodecs entity child opposite hopposite hsteady hcounts
  | .scope junction [] =>
    obtain ⟨opposites, hopposites, rfl⟩ := ScopeTree.negate_scope_inv hnegate
    obtain rfl := Except.ok.inj hopposites
    rw [treePredicate_scope _ _ (by simp), treePredicate_scope _ _ (by simp),
      treePredicates_nil]
    exact .none
  | .scope junction (first :: second :: others) =>
    obtain ⟨opposites, hopposites, rfl⟩ := ScopeTree.negate_scope_inv hnegate
    have hlength := ScopeTree.length_negateAll hopposites
    have hmany : ∀ child, opposites ≠ [child] := by
      rintro child rfl
      simp at hlength
    have hparts := treePredicates_negate hcodecs entity (first :: second :: others) opposites
      hopposites hsteady hcounts
    rw [treePredicate_scope _ _ (by simp), treePredicate_scope _ _ hmany]
    exact hparts.map fun parts duals hdual => groupPredicate_dual hdual junction

/-- Trees and their opposites compile to predicates that are dual one by one, or both fail. -/
theorem treePredicates_negate (hcodecs : compiler.codecs.Shipped) (entity : Entity)
    (trees negated : List ScopeTree) (hnegate : ScopeTree.negateAll trees = .ok negated)
    (hsteady : ∀ c ∈ ScopeTree.allLeaves trees, c.Steady)
    (hcounts : ∀ c ∈ ScopeTree.allLeaves trees, c.countsRows = false) :
    Paired (List.Forall₂ Predicate.Dual) (compiler.treePredicates entity trees)
      (compiler.treePredicates entity negated) := by
  match trees with
  | [] =>
    obtain rfl := Except.ok.inj hnegate
    rw [treePredicates_nil]
    exact .nil
  | tree :: rest =>
    obtain ⟨opposite, opposites, hopposite, hopposites, rfl⟩ :=
      ScopeTree.negateAll_cons_inv hnegate
    simp only [ScopeTree.allLeaves, List.mem_append, or_imp, forall_and] at hsteady hcounts
    have htree := treePredicate_negate hcodecs entity tree opposite hopposite hsteady.1 hcounts.1
    have hrest := treePredicates_negate hcodecs entity rest opposites hopposites hsteady.2
      hcounts.2
    exact treePredicates_cons_paired htree hrest

end

/-! ### Opposite scopes -/

/-- Predicates of a statement that say together what one predicate says, or nothing. -/
def Amounts (found : Option Predicate) (parts : List Predicate) : Prop :=
  (parts = [] ↔ found = none) ∧
  ∀ (database : Database) (asked : Junction) (sight : Sight),
    Junction.and.decides (partsHold database asked sight parts) =
      found.all (·.holdsIn database asked sight)

/-- A predicate that may be missing says what it says alone. -/
theorem amounts_toList (found : Option Predicate) : Amounts found found.toList := by
  cases found with
  | none => exact ⟨by simp, fun _ _ _ => rfl⟩
  | some predicate => exact ⟨by simp, fun _ _ _ => Junction.decides_singleton .and _⟩

/-- Predicates say what their conjunction says. -/
theorem amounts_groupPredicate (parts : List Predicate) :
    Amounts (groupPredicate .and parts) parts := by
  cases parts with
  | nil => exact ⟨by simp [groupPredicate], fun _ _ _ => rfl⟩
  | cons part rest =>
    refine ⟨by simp [groupPredicate], fun database asked sight => ?_⟩
    simp [groupPredicate, Predicate.holdsIn]

/-- The predicates of a scope say together what the predicate of its tree says. -/
theorem scopePredicates_amounts (compiler : Compiler) (entity : Entity) (scope : Scope) :
    Paired Amounts (compiler.treePredicate entity scope.tree)
      (compiler.scopePredicates entity scope) := by
  have hlist (tree : ScopeTree) : Paired Amounts (compiler.treePredicate entity tree)
      ((compiler.treePredicate entity tree).map Option.toList) := by
    cases compiler.treePredicate entity tree with
    | error error => trivial
    | ok found => exact amounts_toList found
  by_cases hand : ∃ children, scope.simplify = .scope .and children
  · obtain ⟨children, hchildren⟩ := hand
    rw [scopePredicates_and compiler entity hchildren, ← treePredicate_simplify, ← Scope.simplify,
      hchildren]
    by_cases hsingle : ∃ child, children = [child]
    · obtain ⟨child, rfl⟩ := hsingle
      rw [treePredicate_singleton, treePredicates_eq_contributions, contributions_singleton]
      exact hlist child
    · rw [treePredicate_scope compiler entity fun child h => hsingle ⟨child, h⟩]
      cases compiler.treePredicates entity children with
      | error error => trivial
      | ok parts => exact amounts_groupPredicate parts
  · rw [scopePredicates_other compiler entity fun children h => hand ⟨children, h⟩]
    exact hlist scope.tree

/-- Where one predicate is dual to another, so are the predicates of two statements that say
together what these say. -/
theorem selects_dual {found opposite : Option Predicate} {parts opposites : List Predicate}
    (hdual : Option.Rel Predicate.Dual found opposite) (hparts : Amounts found parts)
    (hopposites : Amounts opposite opposites) :
    (opposites = [] ↔ parts = []) ∧
      (parts ≠ [] → ∀ (database : Database) (name : String) (row : Row),
        database.selects .or name row opposites = !database.selects .and name row parts) := by
  obtain ⟨hnone, hsays⟩ := hparts
  obtain ⟨hnothing, hopposite⟩ := hopposites
  cases hdual with
  | none => exact ⟨by rw [hnone, hnothing], fun hne => absurd (hnone.2 rfl) hne⟩
  | some hpredicates =>
    refine ⟨by rw [hnone, hnothing]; simp, fun _ database name row => ?_⟩
    rw [Database.selects, Database.selects, hopposite, hsays]
    exact hpredicates database .or [(name, row)]

/-- The predicates of a scope and of its opposite are dual taken together. -/
theorem scopePredicates_negate (hcodecs : compiler.codecs.Shipped) (entity : Entity)
    {scope negated : Scope} (hnegate : scope.negate = .ok negated)
    (hsteady : ∀ c ∈ scope.tree.leaves, c.Steady)
    (hcounts : ∀ c ∈ scope.tree.leaves, c.countsRows = false) :
    Paired
      (fun parts opposites => (opposites = [] ↔ parts = []) ∧
        (parts ≠ [] → ∀ (database : Database) (name : String) (row : Row),
          database.selects .or name row opposites = !database.selects .and name row parts))
      (compiler.scopePredicates entity scope) (compiler.scopePredicates entity negated) := by
  have hdual := treePredicate_negate hcodecs entity scope.tree negated.tree
    (Scope.tree_negate hnegate) hsteady hcounts
  exact hdual.transfer (scopePredicates_amounts compiler entity scope)
    (scopePredicates_amounts compiler entity negated)
    fun _ _ _ _ hpredicates hparts hopposites => selects_dual hpredicates hparts hopposites

/-- A statement that is filled with one scope gets the predicates of the scope. -/
theorem fillWhere_scope (compiler : Compiler) (name : String) (scope : Scope)
    (statement : Statement) :
    compiler.fillWhere statement ⟨name, [scope.tree]⟩ =
      match compiler.scopePredicates (.root name) scope with
      | .ok predicates => .ok (statement.addWheres predicates)
      | .error error => .error (inStatement statement error) := by
  have hscope : compiler.scopePredicates (.root name) ⟨.and, [scope.tree]⟩ =
      compiler.scopePredicates (.root name) scope := by
    rw [scopePredicates_eq_contributions, scopePredicates_eq_contributions]
    rfl
  rw [fillWhere, selectionPredicates, Selection.scope, hscope]
  cases compiler.scopePredicates (.root name) scope <;> rfl

/-- Negation is the complement up to what sub-queries ask. With the codecs of the library and
conditions on fields, near or behind hops, a statement can be filled with the negated scope
when it can with the scope. If the scope imposes anything, the negated one selects just the
rows that the scope leaves out when all related rows are meant in place of some. So it selects
the complement exactly where it makes no difference which are meant, and this is so wherever
it makes none for each condition. -/
theorem negated_scope_dual (compiler : Compiler) (name : String) (statement : Statement)
    (scope negated : Scope) (hcodecs : compiler.codecs.Shipped)
    (hnegate : scope.negate = .ok negated) (hsteady : ∀ c ∈ scope.tree.leaves, c.Steady)
    (hcounts : ∀ c ∈ scope.tree.leaves, c.countsRows = false) :
    ((∃ error, compiler.fillWhere statement ⟨name, [negated.tree]⟩ = .error error) ↔
      ∃ error, compiler.fillWhere statement ⟨name, [scope.tree]⟩ = .error error) ∧
    ∀ predicates, compiler.fillWhere statement ⟨name, [scope.tree]⟩ =
        .ok (statement.addWheres predicates) →
      ∃ opposites, compiler.fillWhere statement ⟨name, [negated.tree]⟩ =
          .ok (statement.addWheres opposites) ∧
        (opposites = [] ↔ predicates = []) ∧
        (predicates ≠ [] → ∀ database row,
          database.selects .or name row opposites = (!database.selects .and name row predicates) ∧
          (database.selects .or name row opposites =
              (!database.selects .or name row predicates) ↔
            database.selects .or name row predicates =
              database.selects .and name row predicates) ∧
          ((∀ fragment ∈ Predicate.allLeaves predicates,
              fragment.Settled database [(name, row)]) →
            database.selects .or name row opposites =
              !database.selects .or name row predicates)) := by
  have hdual := scopePredicates_negate hcodecs (.root name) hnegate hsteady hcounts
  rw [fillWhere_scope, fillWhere_scope]
  match compiler.scopePredicates (.root name) scope,
    compiler.scopePredicates (.root name) negated, hdual with
  | .error error, .error other, _ =>
    refine ⟨⟨fun _ => ⟨_, rfl⟩, fun _ => ⟨_, rfl⟩⟩, fun predicates h => ?_⟩
    cases h
  | .ok parts, .ok opposites, hparts =>
    obtain ⟨hnone, hselects⟩ := hparts
    refine ⟨by simp, fun predicates hfilled => ?_⟩
    obtain rfl : parts = predicates :=
      List.append_cancel_left (congrArg Statement.wheres (Except.ok.inj hfilled))
    refine ⟨opposites, rfl, hnone, fun hne database row => ?_⟩
    have hcomplement := hselects hne database name row
    have hexact : database.selects .or name row opposites =
          (!database.selects .or name row parts) ↔
        database.selects .or name row parts = database.selects .and name row parts := by
      rw [hcomplement, Bool.not_inj_iff]
      exact eq_comm
    refine ⟨hcomplement, hexact, fun hsettled => hexact.2 ?_⟩
    rw [Database.selects, Database.selects, Predicate.partsHold_of_leaves parts hsettled]

/-! ### Orders of a user -/

/-- The link from users to their orders. -/
def orderLink : Link := ⟨"orders", "user_id", "id"⟩

/-- A compiler that knows the orders of users. -/
def orderCompiler : Compiler :=
  ⟨.generic, .passthrough, some (Links.empty.insert "users" "orders" orderLink)⟩

/-- A user. -/
def orderUser : Row := [("id", .string "u1"), ("name", .string "ann")]

/-- An order of the user. -/
def orderOf (total : Nat) : Row :=
  [("user_id", .string "u1"), ("total", .number (Number.ofNat total))]

/-- A database of orders. -/
def orderDatabase (orders : List Row) : Database where
  rows table := if table = "orders" then orders else []
  settings := {}
  dialect := .generic
  value _ _ := .null

/-- The total of an order compared with a hundred. -/
def hundredCondition (operator : Operator) : Condition :=
  ⟨some (.path "orders/total"), some (operator, .scalar (.number (Number.ofNat 100)))⟩

/-- An order with a total that compares with a hundred. -/
def hundredPredicate (operator : Operator) : Predicate :=
  existsPredicate "users" "_o1" orderLink
    (comparisonPredicate (.text "_o1.total") (some operator)
      (.literal (.number (Number.ofNat 100))))

/-- The condition on the total becomes a sub-query for an order. -/
theorem fillWhere_hundred (statement : Statement) (junction : Junction) (operator : Operator) :
    orderCompiler.fillWhere statement
        ⟨"users", [(Scope.mk junction [.condition (hundredCondition operator)]).tree]⟩ =
      .ok (statement.addWheres [hundredPredicate operator]) := by
  have hplain : ∀ compute, Comparand.scalar (.number (Number.ofNat 100)) ≠ .computed compute := by
    simp
  have hhops : ∀ hop ∈ ["orders"], hasHop hop = false := by decide
  have hfield : hasHop "total" = false := by decide
  have hcount : "total" ≠ countSegment := by decide
  have htrail : (Links.empty.insert "users" "orders" orderLink).trail "users" ["orders"] =
      some [orderLink] := rfl
  have hpath : orderCompiler.conditionPredicate (.root "users")
      ⟨some (.path (hopPath "total" ["orders"])),
        some (operator, .scalar (.number (Number.ofNat 100)))⟩ =
      .ok (some (nestedExists
        (storedPredicate
          ⟨.text "total", some operator, some (.literal (.number (Number.ofNat 100)))⟩)
        "users" ((hopAliases 0 ["orders"]).zip [orderLink]))) :=
    conditionPredicate_rootPath rfl hplain (by simp) hhops hfield hcount htrail rfl rfl
  have hfound : orderCompiler.conditionPredicate (.root "users") (hundredCondition operator) =
      .ok (some (hundredPredicate operator)) := hpath
  have hparts : (Scope.mk junction [.condition (hundredCondition operator)]).parts =
      [.condition (hundredCondition operator)] := rfl
  rw [fillWhere_scope, scopePredicates_eq_contributions, hparts, contributions_singleton,
    treePredicate_condition, hfound]
  rfl

/-- A user with one order, of fifty: the negated condition selects the user, whom the condition
leaves out. -/
theorem negated_scope_dual_of_one_order :
    ∃ opposites,
      orderCompiler.fillWhere (.empty .generic)
          ⟨"users", [(Scope.mk .or [.condition (hundredCondition .lte)]).tree]⟩ =
        .ok ((Statement.empty .generic).addWheres opposites) ∧
      (orderDatabase [orderOf 50]).selects .or "users" orderUser opposites = true := by
  have hleaf : ∀ c ∈ (Scope.mk .and [.condition (hundredCondition .gt)]).tree.leaves,
      c = hundredCondition .gt := by
    simp [Scope.tree, ScopeTree.leaves, ScopeTree.allLeaves]
  have hcodecs : orderCompiler.codecs.Shipped := Codecs.passthrough_shipped
  have hsteady : ∀ c ∈ (Scope.mk .and [.condition (hundredCondition .gt)]).tree.leaves,
      c.Steady := by
    intro c hc operator compute htest
    rw [hleaf c hc] at htest
    simp [hundredCondition] at htest
  have hcounts : ∀ c ∈ (Scope.mk .and [.condition (hundredCondition .gt)]).tree.leaves,
      c.countsRows = false := by
    intro c hc
    rw [hleaf c hc]
    decide +kernel
  have hsettled : ∀ fragment ∈ Predicate.allLeaves [hundredPredicate .gt],
      fragment.Settled (orderDatabase [orderOf 50]) [("users", orderUser)] := by
    decide +kernel
  obtain ⟨opposites, hfilled, -, hselects⟩ :=
    (negated_scope_dual orderCompiler "users" (.empty .generic)
      ⟨.and, [.condition (hundredCondition .gt)]⟩ ⟨.or, [.condition (hundredCondition .lte)]⟩
      hcodecs rfl hsteady hcounts).2 [hundredPredicate .gt] (fillWhere_hundred _ _ _)
  obtain ⟨-, -, hcomplement⟩ := hselects (by simp) (orderDatabase [orderOf 50]) orderUser
  refine ⟨opposites, hfilled, (hcomplement hsettled).trans ?_⟩
  decide +kernel

/-- Neither the condition nor its opposite selects a user without orders, and both select a
user with an order on either side. -/
theorem negated_scope_no_complement :
    (Scope.mk .and [.condition (hundredCondition .gt)]).negate =
        .ok ⟨.or, [.condition (hundredCondition .lte)]⟩ ∧
      ∃ predicates opposites,
        orderCompiler.fillWhere (.empty .generic)
            ⟨"users", [(Scope.mk .and [.condition (hundredCondition .gt)]).tree]⟩ =
          .ok ((Statement.empty .generic).addWheres predicates) ∧
        orderCompiler.fillWhere (.empty .generic)
            ⟨"users", [(Scope.mk .or [.condition (hundredCondition .lte)]).tree]⟩ =
          .ok ((Statement.empty .generic).addWheres opposites) ∧
        ((orderDatabase []).selects .or "users" orderUser predicates = false ∧
          (orderDatabase []).selects .or "users" orderUser opposites = false) ∧
        ((orderDatabase [orderOf 50, orderOf 150]).selects .or "users" orderUser predicates =
            true ∧
          (orderDatabase [orderOf 50, orderOf 150]).selects .or "users" orderUser opposites =
            true) :=
  ⟨rfl, _, _, fillWhere_hundred _ _ _, fillWhere_hundred _ _ _,
    ⟨by decide +kernel, by decide +kernel⟩, by decide +kernel, by decide +kernel⟩

end Compiler

end ScopeQuery
