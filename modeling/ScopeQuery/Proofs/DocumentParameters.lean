import ScopeQuery.Proofs.BoundScalars
import ScopeQuery.Proofs.HopPredicates
import ScopeQuery.Proofs.PlaceholderValues
import ScopeQuery.Proofs.PlainCompilation

/-!
# Parameters of documents

Whatever the context holds, a query that is read from a document binds null, truth values, numbers
and texts alone. A value enters as a literal, as an item of a list or in the place of
a placeholder; the condition it makes is checked against its operator, and negating it, resolving
it or moving it along a path keeps it. So every literal of the statement is flat, also in the
sub-queries that the hops of a path become.
-/

namespace ScopeQuery

/-! ### Conditions of documents -/

/-- A condition on a path, if on anything, with a value that its operator takes, if with any. -/
structure Condition.Given (condition : Condition) : Prop where
  /-- The subject is no expression. -/
  path : ∀ e, condition.subject ≠ some (.expression e)
  /-- The comparand is made from a value and was checked. -/
  value : ∀ operator comparand, condition.test = some (operator, comparand) →
    ∃ value, comparand = .ofValue value ∧ Comparand.check operator comparand = .ok ()

/-- A value that an operator takes is a single one, or an array of single ones. -/
theorem Comparand.flat_of_check {operator : Operator} {value : Value}
    (h : check operator (.ofValue value) = .ok ()) : value.Flat := by
  obtain ⟨hlist, hobject⟩ := check_eq_ok_iff.mp h
  cases value with
  | null => exact .inl .null
  | bool b => exact .inl (.bool b)
  | number x => exact .inl (.number x)
  | string s => exact .inl (.string s)
  | array items =>
    exact .inr ⟨items, rfl, fun item hitem =>
      Value.single_of_not_nested ((hlist items rfl).2 item hitem)⟩
  | object fields => exact absurd rfl (hobject fields)

namespace Condition.Given

variable {condition : Condition}

/-- A condition that is read from a text. -/
theorem of_text {context : ParseContext} {text : String}
    (h : parseCondition context text = .ok condition) : condition.Given := by
  rw [parseCondition] at h
  split at h
  · cases h
  · rw [parseTrimmed] at h
    split at h
    · split at h
      · cases h
      · cases h
        exact ⟨by simp [bare], by simp [bare]⟩
    · dsimp only at h
      split at h
      · cases h
      · split at h
        · cases h
        · split at h
          · obtain ⟨rfl, hcheck⟩ := compare_eq_ok h
            refine ⟨by simp, ?_⟩
            rintro operator comparand ⟨⟩
            exact ⟨_, rfl, hcheck⟩
          · cases h

/-- The opposite condition. -/
theorem negate (h : condition.Given) {negated : Condition}
    (hnegate : condition.negate = .ok negated) : negated.Given := by
  have hsubject := (same_of_negate hnegate).1
  refine ⟨by rw [hsubject]; exact h.path, fun operator comparand htest => ?_⟩
  rw [test_of_negate hnegate, Option.map_eq_some_iff] at htest
  obtain ⟨⟨written, given⟩, hgiven, heq⟩ := htest
  obtain ⟨rfl, rfl⟩ := Prod.mk.inj heq
  obtain ⟨value, hvalue, hcheck⟩ := h.value written given hgiven
  exact ⟨value, hvalue, Comparand.check_negate_eq_ok_iff.mpr hcheck⟩

/-- The condition on the rest of its path. -/
theorem withPath (h : condition.Given) (path : String) :
    (condition.withSubject (.path path)).Given :=
  ⟨by simp [withSubject], h.value⟩

/-- Nothing is computed, so a condition that imposes anything is resolved already. -/
theorem resolved_eq (h : condition.Given) {result : Condition}
    (hresolved : condition.resolved = .ok (some result)) : result = condition := by
  obtain ⟨rfl, -⟩ | ⟨operator, compute, _, htest, -⟩ := resolved_cases hresolved
  · rfl
  · obtain ⟨value, hvalue, -⟩ := h.value _ _ htest
    exact absurd hvalue.symm (Comparand.ofValue_ne_computed value compute)

end Condition.Given

/-- The conditions of a document's selection. -/
theorem ScopeDocument.leaves_given {context : ParseContext} {entity : String}
    {document : ScopeDocument} {selection : Selection}
    (h : document.selection context entity = .ok selection) :
    ∀ leaf ∈ selection.scope.tree.leaves, leaf.Given := by
  unfold ScopeDocument.selection at h
  split at h
  · rename_i scope hscope
    cases h
    obtain ⟨tree, htree, hscoped⟩ := tree_of_scope hscope
    have hleaves : (Selection.mk entity [scope.tree]).scope.tree.leaves = tree.leaves := by
      rw [hscoped]
      cases tree <;> simp [Selection.scope, Scope.tree, ScopeTree.scoped, ScopeTree.leaves,
        ScopeTree.allLeaves]
    rw [hleaves]
    intro leaf hleaf
    have htexts := leaves_of_tree htree
    obtain ⟨text, -, hsigned⟩ : ∃ text ∈ document.signedTexts,
        signedCondition context text = .ok leaf := by
      rw [← List.mem_map, htexts]
      exact List.mem_map_of_mem hleaf
    unfold signedCondition at hsigned
    split at hsigned
    · rename_i written hwritten
      have hgiven := Condition.Given.of_text hwritten
      split at hsigned
      · exact hgiven.negate hsigned
      · cases hsigned
        exact hgiven
    · cases hsigned
  · cases h

/-! ### Predicates of conditions -/

/-- A predicate that is an expression binds what the expression binds. -/
theorem Expression.predicate_bindsSingle {e : Expression} (h : e.BindsSingle) :
    e.predicate.BindsSingle :=
  Predicate.fragment_bindsSingle (Argument.expression_bindsSingle h)

/-- A comparison of two arguments binds what they bind, however its operator is written. -/
theorem comparisonPredicate_bindsSingle {field value : Argument} (hfield : field.BindsSingle)
    (hvalue : value.BindsSingle) (operator : Option Operator) :
    (comparisonPredicate field operator value).BindsSingle := by
  unfold comparisonPredicate
  split <;> exact Predicate.comparison_bindsSingle hfield hvalue _

/-- The key of a column is a name. -/
theorem Entity.qualifyArgument_bindsSingle (entity : Entity) (column : String) :
    (entity.qualifyArgument (.text column)).BindsSingle := by
  unfold qualifyArgument
  split
  · exact Argument.text_bindsSingle _
  · exact Argument.text_bindsSingle column

/-- A reading statement binds what its fields, its tables and the fragments of its predicates
bind. -/
theorem Statement.reading_bindsSingle {dialect : Dialect} {fields tables : List Source}
    {wheres : List Predicate} (hfields : ∀ source ∈ fields, source.source.BindsSingle)
    (htables : ∀ source ∈ tables, source.source.BindsSingle)
    (hwheres : ∀ leaf ∈ Predicate.allLeaves wheres, leaf.BindsSingle) :
    (reading dialect fields tables wheres).BindsSingle :=
  OperandsBindSingle.bindsSingle
    { fields := hfields
      tables := htables
      joins := by simp [reading]
      wheres := hwheres
      groups := by simp [reading]
      havings := by simp [reading, Predicate.allLeaves]
      order := by simp [reading]
      assignments := by simp [reading] }

namespace Compiler

variable {compiler : Compiler} {entity : Entity}

/-- The sub-query on related rows binds what the predicates on them bind. -/
theorem subQuery_bindsSingle {hop : String} {related : RelatedRows}
    (hfollow : compiler.follow entity hop = .ok related) {predicates : List Predicate}
    (h : ∀ leaf ∈ Predicate.allLeaves predicates, leaf.BindsSingle) (selected : String) :
    (related.subQuery predicates selected).BindsSingle := by
  obtain ⟨link, rfl⟩ := exists_link_of_follow hfollow
  have hselected : (Expression.ofTemplate selected).BindsSingle :=
    Expression.bindsSingle_of_operands (by simp)
  have hcorrelation (parent related : Entity) : (link.correlation parent related).BindsSingle := by
    refine Expression.predicate_bindsSingle (Expression.bindsSingle_of_operands ?_)
    intro operand hmem
    simp only [List.mem_cons, List.not_mem_nil, or_false] at hmem
    obtain rfl | rfl := hmem <;> exact Argument.text_bindsSingle _
  rw [link.subQuery_rows]
  refine Statement.reading_bindsSingle (by simpa using Argument.expression_bindsSingle hselected)
    (by simpa using Argument.text_bindsSingle link.table) fun leaf hleaf => ?_
  obtain rfl | hleaf := List.mem_cons.1 hleaf
  · exact hcorrelation _ _
  · exact h leaf hleaf

/-- The fragment that asks for related rows binds what the predicates on them bind. -/
theorem existsWith_bindsSingle {hop : String} {related : RelatedRows}
    (hfollow : compiler.follow entity hop = .ok related) {predicates : List Predicate}
    (h : ∀ leaf ∈ Predicate.allLeaves predicates, leaf.BindsSingle) :
    (related.existsWith predicates).BindsSingle :=
  Expression.bindsSingle_of_operands
    (by simpa using Argument.statement_bindsSingle (subQuery_bindsSingle hfollow h "1"))

/-- The fragment that counts related rows binds what the predicates on them bind. -/
theorem countWith_bindsSingle {hop : String} {related : RelatedRows}
    (hfollow : compiler.follow entity hop = .ok related) {predicates : List Predicate}
    (h : ∀ leaf ∈ Predicate.allLeaves predicates, leaf.BindsSingle) :
    (related.countWith predicates).BindsSingle :=
  Expression.bindsSingle_of_operands
    (by simpa using Argument.statement_bindsSingle (subQuery_bindsSingle hfollow h "count(*)"))

/-- Nothing is asked of the rows that a hop has just led to. -/
theorem allLeaves_of_follow {hop : String} {related : RelatedRows} {predicates : List Predicate}
    (hfollow : compiler.follow entity hop = .ok related)
    (h : compiler.scopePredicates related.entity related.selection.scope = .ok predicates) :
    Predicate.allLeaves predicates = [] := by
  have hleaves := compiler.allLeaves_scopePredicates related.entity related.selection.scope
  have hnone : related.selection.scope.tree.leaves = [] := by
    simp [Selection.scope, Scope.tree, ScopeTree.leaves, follow_children hfollow,
      ScopeTree.allLeaves]
  rw [h, hnone] at hleaves
  exact Except.ok.inj hleaves

/-- A condition on a field of the entity itself binds its value or the items of its list. -/
theorem fieldPredicate_bindsSingle (hcodecs : compiler.codecs = .passthrough) {field : String}
    {condition : Condition} (hgiven : condition.Given) {predicate : Predicate}
    (h : compiler.fieldPredicate entity field condition = .ok predicate) :
    predicate.BindsSingle := by
  have hkey := entity.qualifyArgument_bindsSingle field
  obtain ⟨subject, test⟩ := condition
  cases test with
  | none =>
    rw [fieldPredicate_bare hcodecs] at h
    cases h
    exact Expression.predicate_bindsSingle
      (Expression.bindsSingle_of_operands (by simpa using hkey))
  | some test =>
    obtain ⟨operator, comparand⟩ := test
    obtain ⟨value, rfl, hcheck⟩ := hgiven.value operator comparand rfl
    rw [fieldPredicate_ofValue hcodecs] at h
    cases h
    exact comparisonPredicate_bindsSingle hkey
      (Argument.literal_bindsSingle (Comparand.flat_of_check hcheck)) _

/-- A condition on a count of related rows binds the number it is compared with, or a list. -/
theorem countPredicate_bindsSingle {hop : String} {related : RelatedRows}
    (hfollow : compiler.follow entity hop = .ok related) {condition : Condition}
    (hgiven : condition.Given) {predicate : Predicate}
    (h : compiler.countPredicate related condition = .ok predicate) : predicate.BindsSingle := by
  have hexists : ∀ e, compiler.existsFragment related = .ok e → e.BindsSingle := by
    intro e he
    rw [existsFragment_eq] at he
    obtain ⟨predicates, hfound, rfl⟩ := exists_ok_of_map he
    exact existsWith_bindsSingle hfollow (by simp [allLeaves_of_follow hfollow hfound])
  have hcount : ∀ e, compiler.countFragment related = .ok e → e.BindsSingle := by
    intro e he
    rw [countFragment_eq] at he
    obtain ⟨predicates, hfound, rfl⟩ := exists_ok_of_map he
    exact countWith_bindsSingle hfollow (by simp [allLeaves_of_follow hfollow hfound])
  obtain ⟨e, he, rfl | rfl⟩ | ⟨operator, comparand, value, e, htest, hvalue, he, rfl⟩ :=
    countPredicate_cases h
  · exact Expression.predicate_bindsSingle (hexists e he)
  · exact Expression.predicate_bindsSingle (Expression.bindsSingle_of_operands
      (by simpa using Argument.expression_bindsSingle (hexists e he)))
  · obtain ⟨given, rfl, hcheck⟩ := hgiven.value operator comparand htest
    rw [plainArgument_ofValue] at hvalue
    cases hvalue
    exact comparisonPredicate_bindsSingle (Argument.expression_bindsSingle (hcount e he))
      (Argument.literal_bindsSingle (Comparand.flat_of_check hcheck)) _

/-- A condition that leads over no hop binds its value or the items of its list. -/
theorem resolvedPredicate_bindsSingle (hcodecs : compiler.codecs = .passthrough)
    {condition : Condition} (hgiven : condition.Given) (hsplit : condition.splitHop? = none)
    {predicate : Predicate} (h : compiler.resolvedPredicate entity condition = .ok predicate) :
    predicate.BindsSingle := by
  cases hsubject : condition.subject with
  | none =>
    rw [resolvedPredicate_of_none hsubject] at h
    cases h
  | some subject =>
    cases subject with
    | expression e => exact absurd hsubject (hgiven.path e)
    | path path =>
      have hpath : splitHop? path = none := by
        simpa [Condition.splitHop?, hsubject, Subject.splitHop?, Subject.path?] using hsplit
      rw [resolvedPredicate_of_field hsubject hpath] at h
      exact fieldPredicate_bindsSingle hcodecs hgiven h

/-- A condition on any path binds single values only. -/
theorem conditionPredicate_bindsSingle (hcodecs : compiler.codecs = .passthrough)
    (entity : Entity) {condition : Condition} (hgiven : condition.Given) {predicate : Predicate}
    (h : compiler.conditionPredicate entity condition = .ok (some predicate)) :
    predicate.BindsSingle := by
  induction entity, condition using compiler.hop_induction generalizing predicate with
  | error entity condition error hresolved =>
    rw [conditionPredicate_of_error hresolved] at h
    cases h
  | nothing entity condition hresolved =>
    rw [conditionPredicate_of_nothing hresolved] at h
    cases h
  | own entity condition resolved hresolved hsplit =>
    obtain rfl := hgiven.resolved_eq hresolved
    rw [conditionPredicate_of_resolved hresolved] at h
    obtain ⟨_, hfound, ⟨⟩⟩ := exists_ok_of_map h
    exact resolvedPredicate_bindsSingle hcodecs hgiven hsplit hfound
  | astray entity condition resolved hop rest error hresolved hsplit hfollow =>
    obtain ⟨path, hsubject, hpath⟩ := Condition.splitHop?_path hsplit
    rw [conditionPredicate_of_resolved hresolved, resolvedPredicate_of_hop hsubject hpath,
      hopPredicate_of_error hfollow] at h
    cases h
  | count entity condition resolved hop related hresolved hsplit hfollow =>
    obtain rfl := hgiven.resolved_eq hresolved
    obtain ⟨path, hsubject, hpath⟩ := Condition.splitHop?_path hsplit
    rw [conditionPredicate_of_resolved hresolved, resolvedPredicate_of_hop hsubject hpath,
      hopPredicate_of_count hfollow] at h
    obtain ⟨_, hfound, ⟨⟩⟩ := exists_ok_of_map h
    exact countPredicate_bindsSingle hfollow hgiven hfound
  | hop entity condition resolved hop rest related hresolved hsplit hrest hfollow ih =>
    obtain rfl := hgiven.resolved_eq hresolved
    obtain ⟨path, hsubject, hpath⟩ := Condition.splitHop?_path hsplit
    rw [conditionPredicate_of_resolved hresolved, resolvedPredicate_of_hop hsubject hpath,
      hopPredicate_of_rest hfollow hrest] at h
    obtain ⟨_, hhop, ⟨⟩⟩ := exists_ok_of_map h
    obtain ⟨found, hfound, rfl⟩ := exists_ok_of_map hhop
    refine Expression.predicate_bindsSingle (existsWith_bindsSingle hfollow fun leaf hleaf => ?_)
    cases found with
    | none => cases hleaf
    | some inner =>
      -- The predicate of a condition is no group, so it is the only fragment in it.
      have hleaves := Predicate.leaves_of_not_group (conditionPredicate_not_group hfound)
      simp only [Option.toList_some, Predicate.allLeaves, hleaves, List.append_nil,
        List.mem_singleton] at hleaf
      obtain rfl := hleaf
      exact ih (hgiven.withPath rest) hfound

/-- The fragments of given conditions bind single values only. -/
theorem contributions_bindSingle (hcodecs : compiler.codecs = .passthrough) (entity : Entity)
    {conditions : List Condition} (hgiven : ∀ condition ∈ conditions, condition.Given)
    {fragments : List Predicate}
    (h : contributions (compiler.conditionPredicate entity) conditions = .ok fragments) :
    ∀ fragment ∈ fragments, fragment.BindsSingle := by
  induction conditions generalizing fragments with
  | nil =>
    cases h
    simp
  | cons condition rest ih =>
    rw [contributions_cons] at h
    split at h
    · cases h
    · rename_i predicate hpredicate
      split at h
      · rename_i others hothers
        cases h
        intro fragment hfragment
        obtain hfragment | hfragment := List.mem_append.1 hfragment
        · have hsome : predicate = some fragment := Option.mem_toList.1 hfragment
          exact conditionPredicate_bindsSingle hcodecs entity (hgiven condition List.mem_cons_self)
            (hsome ▸ hpredicate)
        · exact ih (fun condition hmem => hgiven condition (List.mem_cons_of_mem _ hmem)) hothers
            fragment hfragment
      · cases h

/-- The statement that reads the selected rows binds single values only when the conditions of
the selection are given. -/
theorem select_bindsSingle (hcodecs : compiler.codecs = .passthrough) {selection : Selection}
    (hgiven : ∀ leaf ∈ selection.scope.tree.leaves, leaf.Given) {statement : Statement}
    (h : compiler.select selection = .ok statement) : statement.BindsSingle := by
  obtain ⟨predicates, rfl, hfound⟩ := contributions_of_select h
  exact Statement.reading_bindsSingle (by simp)
    (by simpa using Argument.text_bindsSingle selection.entity)
    (contributions_bindSingle hcodecs (.root selection.entity) hgiven hfound)

end Compiler

namespace ScopeDocument

/-- Every parameter of a query that is read from a document is null, a truth value, a number or a
text, whatever values the context holds and wherever the paths of its conditions lead. -/
theorem params_single {compiler : Compiler}
    (hcodecs : compiler.codecs = .passthrough) {context : ParseContext} {entity : String}
    {document : ScopeDocument} {selection : Selection} {statement : Statement}
    {query : RenderedQuery} (hselection : document.selection context entity = .ok selection)
    (hselect : compiler.select selection = .ok statement)
    (hrender : statement.render = .ok query) : ∀ param ∈ query.params, param.2.Single :=
  (compiler.select_bindsSingle hcodecs (leaves_given hselection) hselect).params hrender

/-- Users by their keys and by the title of one of their posts. -/
def titledDocument : ScopeDocument :=
  .group (some [.condition "id in \x7bids\x7d", .condition "posts/title = \x7btitle\x7d"]) none
    none

/-- Keys of users, one of which is null. -/
def titledKeys : List Value := [.number (Number.ofNat 7), .null, .string "x"]

/-- A context with the keys and a title. -/
def titledContext : ParseContext :=
  [("ids", .array titledKeys), ("title", .string "Intro")]

/-- A compiler that knows where the posts of a user are. -/
def linkedCompiler : Compiler :=
  ⟨.mssql, .passthrough, some (Links.empty.insert "user" "posts" ⟨"post", "author", "id"⟩)⟩

/-- What the document selects in that context. -/
def titledSelection : Selection where
  entity := "user"
  children :=
    [.scope .and
      [.condition ⟨some (.path "id"), some (.isIn, .list titledKeys)⟩,
        .condition ⟨some (.path "posts/title"), some (.eq, .scalar (.string "Intro"))⟩]]

/-- The document is read in that context. -/
theorem selection_titledDocument :
    titledDocument.selection titledContext "user" = .ok titledSelection := by
  have hbraces : ∀ name : String, HasFirmEnds ('\x7b' :: name.toList ++ ['\x7d']) :=
    fun name => .enclosed rfl rfl name.toList
  have hids : parseCondition titledContext "id in \x7bids\x7d" =
      .ok ⟨some (.path "id"), some (.isIn, .list titledKeys)⟩ := by
    have htext : "id in \x7bids\x7d" =
        printedCondition "id" .isIn ('\x7b' :: "ids".toList ++ ['\x7d']) := by decide
    rw [htext, parseCondition_of_printed (by simp) (by simp [IsFieldChar, Text.isBlank]) .isIn
      (hbraces "ids"), parseValue_of_standsFor .braced]
    rfl
  have htitle : parseCondition titledContext "posts/title = \x7btitle\x7d" =
      .ok ⟨some (.path "posts/title"), some (.eq, .scalar (.string "Intro"))⟩ := by
    have htext : "posts/title = \x7btitle\x7d" =
        printedCondition "posts/title" .eq ('\x7b' :: "title".toList ++ ['\x7d']) := by decide
    rw [htext, parseCondition_of_printed (by simp) (by simp [IsFieldChar, Text.isBlank]) .eq
      (hbraces "title"), parseValue_of_standsFor .braced]
    rfl
  simp [titledDocument, titledSelection, selection, scope, tree, listTrees, trees, hids, htitle,
    Scope.tree]

/-- The conditions of the selection have predicates with a text, the one behind the hop too. -/
theorem contributions_titledSelection :
    ∃ fragments, contributions (linkedCompiler.conditionPredicate (.root titledSelection.entity))
      titledSelection.scope.tree.leaves = .ok fragments ∧ ComeTo fragments none := by
  have hmade : Condition.compare (.path "id") .isIn (.ofValue (.array titledKeys)) =
      .ok ⟨some (.path "id"), some (.isIn, .list titledKeys)⟩ := rfl
  have hplain : Condition.Plain ⟨some (.path "id"), some (.isIn, .list titledKeys)⟩ :=
    .compare (by decide) hmade
  have hcodecs : linkedCompiler.codecs = .passthrough := rfl
  obtain ⟨ids, hids, hidsRender⟩ :=
    Compiler.conditionPredicate_of_plain hcodecs titledSelection.entity hplain
  have hpost : linkedCompiler.conditionPredicate ((Entity.root "user").reached "posts" "post")
      ⟨some (.path "title"), some (.eq, .scalar (.string "Intro"))⟩ =
        .ok (some (comparisonPredicate (.text "_p1.title") (some .eq)
          (.literal (.string "Intro")))) := by
    rw [Compiler.conditionPredicate_of_resolved rfl, Compiler.resolvedPredicate_of_field rfl rfl]
    rfl
  have hpostRenders : ComeTo [comparisonPredicate (.text "_p1.title") (some .eq)
      (.literal (.string "Intro"))] none := comparisonPredicate_comesTo rfl
  have hfollow : linkedCompiler.follow (.root titledSelection.entity) "posts" =
      .ok ((Link.mk "post" "author" "id").rows (.root "user") "posts") := rfl
  have htitle : linkedCompiler.conditionPredicate (.root titledSelection.entity)
      ⟨some (.path "posts/title"), some (.eq, .scalar (.string "Intro"))⟩ =
        .ok (some (((Link.mk "post" "author" "id").rows (.root "user") "posts").existsWith
          [comparisonPredicate (.text "_p1.title") (some .eq)
            (.literal (.string "Intro"))]).predicate) := by
    have hsplit : splitHop? "posts/title" = some ("posts", "title") := by decide
    have hrest : "title" ≠ countSegment := by decide
    rw [Compiler.conditionPredicate_of_resolved rfl, Compiler.resolvedPredicate_of_hop rfl hsplit,
      Compiler.hopPredicate_of_rest hfollow hrest]
    change ((linkedCompiler.conditionPredicate ((Entity.root "user").reached "posts" "post")
      ⟨some (.path "title"), some (.eq, .scalar (.string "Intro"))⟩).map _).map some = _
    rw [hpost]
    rfl
  have htitleRenders : ComeTo
      [(((Link.mk "post" "author" "id").rows (.root "user") "posts").existsWith
        [comparisonPredicate (.text "_p1.title") (some .eq)
          (.literal (.string "Intro"))]).predicate] none :=
    Expression.predicate_comesTo (Compiler.existsWith_alwaysRenders hfollow hpostRenders)
  refine ⟨_, ?_, hidsRender.append htitleRenders⟩
  have hleaves : titledSelection.scope.tree.leaves =
      [⟨some (.path "id"), some (.isIn, .list titledKeys)⟩,
        ⟨some (.path "posts/title"), some (.eq, .scalar (.string "Intro"))⟩] := rfl
  rw [hleaves, contributions_cons, hids]
  dsimp only
  rw [contributions_cons, htitle]
  rfl

/-- A list of keys and a title that a hop leads to are read, compiled and rendered, and no array
is among the parameters. -/
theorem params_single_over_hop :
    ∃ selection statement query, titledDocument.selection titledContext "user" = .ok selection ∧
      linkedCompiler.select selection = .ok statement ∧ statement.render = .ok query ∧
      ∀ param ∈ query.params, param.2.Single := by
  obtain ⟨fragments, hfragments, hrenders⟩ := contributions_titledSelection
  obtain ⟨predicates, hselect, rfl⟩ := Compiler.select_of_contributions hfragments
  obtain ⟨query, hquery⟩ := Statement.readingAll_renders linkedCompiler.dialect "user" hrenders
  exact ⟨_, _, query, selection_titledDocument, hselect, hquery,
    params_single rfl selection_titledDocument hselect hquery⟩

end ScopeDocument

end ScopeQuery
