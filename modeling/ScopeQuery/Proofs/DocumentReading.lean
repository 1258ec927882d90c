import ScopeQuery.Proofs.BackendAgreement
import ScopeQuery.Proofs.DocumentLeaves

/-!
# What a scope document says

A document is read directly, list by list: all items of the first list, some item of the
second, not all items of the third, each list and each item left out when it says nothing.
The matcher evaluates the tree of the document, in which no list is negated any more, and
comes to the same answer on every row that decides the texts.
-/

namespace ScopeQuery

namespace ScopeDocument

mutual

/-- What a document says when each condition text is as true as given; a group whose lists say
nothing says nothing. -/
def reading (truth : String → Bool) : ScopeDocument → Option Bool
  | .condition text => some (truth text)
  | .group all any not =>
    Junction.and.verdict? ((listReading truth .and all).toList ++
      ((listReading truth .or any).toList ++ ((listReading truth .and not).map Bool.not).toList))

/-- What the items of a list say, joined. -/
def listReading (truth : String → Bool) (junction : Junction) :
    Option (List ScopeDocument) → Option Bool
  | none => none
  | some items => junction.verdict? (readings truth items)

/-- What those of several documents say that say anything, in order. -/
def readings (truth : String → Bool) : List ScopeDocument → List Bool
  | [] => []
  | document :: rest => (reading truth document).toList ++ readings truth rest

end

end ScopeDocument

/-- The condition a text stands for is not empty, and its comparand is not computed. -/
theorem parseCondition_plain {context : ParseContext} {text : String} {condition : Condition}
    (h : parseCondition context text = .ok condition) :
    condition.isEmpty = false ∧ condition.isComputed = false := by
  rw [parseCondition] at h
  split at h
  · cases h
  · rw [parseTrimmed] at h
    split at h
    · split at h
      · cases h
      · cases h
        exact ⟨rfl, rfl⟩
    · dsimp only at h
      split at h
      · cases h
      · split at h
        · cases h
        · split at h
          · rename_i value _
            rw [Condition.compare] at h
            split at h
            · cases h
              exact ⟨rfl, by cases value <;> rfl⟩
            · cases h
          · cases h

namespace Matcher

/-- Whether a row satisfies the condition that a text stands for. -/
def textHolds (matcher : Matcher) (context : ParseContext) (entity : String) (row : Row)
    (text : String) : Bool :=
  match parseCondition context text with
  | .ok condition => matcher.satisfied entity row condition
  | .error _ => false

/-- The row decides the conditions that texts stand for, and holds a scalar under every
storage key that they read. -/
def DecidesTexts (matcher : Matcher) (context : ParseContext) (entity : String) (row : Row)
    (texts : List (String × Bool)) : Prop :=
  ∀ leaf ∈ texts, ∀ condition, parseCondition context leaf.1 = .ok condition →
    matcher.ReadsScalars entity row [condition] ∧
      ∃ verdict, matcher.conditionHolds entity row condition = .ok verdict

section Reading

open ScopeDocument

variable {matcher : Matcher} {context : ParseContext} {entity : String} {row : Row}

/-- The row decides the texts of a part when it decides those of the whole. -/
theorem DecidesTexts.mono {texts part : List (String × Bool)}
    (h : matcher.DecidesTexts context entity row texts)
    (hpart : ∀ leaf ∈ part, ∃ whole ∈ texts, whole.1 = leaf.1) :
    matcher.DecidesTexts context entity row part := by
  intro leaf hleaf condition hcondition
  obtain ⟨whole, hwhole, htext⟩ := hpart leaf hleaf
  exact h whole hwhole condition (by rw [htext, hcondition])

/-- A text that the row decides is as true as its condition. -/
theorem conditionHolds_of_text {texts : List (String × Bool)}
    (h : matcher.DecidesTexts context entity row texts) {leaf : String × Bool}
    (hleaf : leaf ∈ texts) {condition : Condition}
    (hcondition : parseCondition context leaf.1 = .ok condition) :
    matcher.conditionHolds entity row condition =
      .ok (some (matcher.textHolds context entity row leaf.1)) := by
  obtain ⟨-, verdict, hverdict⟩ := h leaf hleaf condition hcondition
  obtain ⟨hempty, hplain⟩ := parseCondition_plain hcondition
  have himposes : condition.imposes = true := by
    rw [Condition.imposes_of_plain hplain, hempty, Bool.not_false]
  cases verdict with
  | none =>
    rw [(matcher.conditionHolds_eq_none_iff entity row condition).1 hverdict] at himposes
    cases himposes
  | some result => simp [textHolds, hcondition, satisfied, hverdict]

/-- The leaves of decided texts have no computed comparand and read scalars. -/
theorem plain_of_texts {texts : List (String × Bool)} {leaves : List Condition}
    (hleaves : texts.map (signedCondition context) = leaves.map .ok)
    (h : matcher.DecidesTexts context entity row texts) :
    (∀ c ∈ leaves, c.isComputed = false) ∧ matcher.ReadsScalars entity row leaves := by
  have horigin (c : Condition) (hc : c ∈ leaves) :
      ∃ leaf ∈ texts, ∃ written, parseCondition context leaf.1 = .ok written ∧
        c.subject = written.subject ∧ c.isComputed = written.isComputed := by
    have hmem : (.ok c : Except QueryError Condition) ∈ leaves.map .ok := List.mem_map_of_mem hc
    rw [← hleaves] at hmem
    obtain ⟨leaf, hleaf, hsigned⟩ := List.mem_map.1 hmem
    cases hwritten : parseCondition context leaf.1 with
    | error error => simp [signedCondition, hwritten] at hsigned
    | ok written =>
      refine ⟨leaf, hleaf, written, hwritten, ?_⟩
      rw [signedCondition, hwritten] at hsigned
      dsimp only at hsigned
      split at hsigned
      · exact Condition.same_of_negate hsigned
      · cases hsigned
        exact ⟨rfl, rfl⟩
  refine ⟨fun c hc => ?_, fun c hc field codec hsubject hhop hcodec => ?_⟩
  · obtain ⟨leaf, -, written, hwritten, -, hcomputed⟩ := horigin c hc
    rw [hcomputed, (parseCondition_plain hwritten).2]
  · obtain ⟨leaf, hleaf, written, hwritten, hsame, -⟩ := horigin c hc
    exact (h leaf hleaf written hwritten).1 written (by simp) field codec
      (hsame ▸ hsubject) hhop hcodec

/-- Joined trees that may be left out are evaluated like the scope of them. -/
theorem treesHold_alternatives (junction around : Junction) (found : Option (List ScopeTree)) :
    matcher.treesHold entity row around (found.map (.scope junction)).toList =
      matcher.treesHold entity row junction (found.getD []) := by
  cases found with
  | none => rw [Option.map_none, Option.toList_none, treesHold, Option.getD_none, treesHold]
  | some trees => exact treesHold_singleton ..

mutual

/-- The tree of a document is as true as the document reads. -/
theorem treeHolds_reading (hcodecs : matcher.codecs.Shipped) {document : ScopeDocument}
    {tree : ScopeTree} (h : document.tree context = .ok tree)
    (hrow : matcher.DecidesTexts context entity row document.signedTexts) :
    matcher.treeHolds entity row tree =
      .ok (document.reading (matcher.textHolds context entity row)) := by
  match document with
  | .condition text =>
    rw [ScopeDocument.tree] at h
    split at h
    · rename_i condition hcondition
      cases h
      rw [treeHolds, reading]
      exact conditionHolds_of_text hrow (List.mem_singleton.2 rfl) hcondition
    · cases h
  | .group all any not =>
    obtain ⟨allTrees, anyTrees, notTrees, opposites, hall, hany, hnot, -, hnegate, rfl⟩ :=
      tree_of_group h
    rw [signedTexts] at hrow
    have hallRow : matcher.DecidesTexts context entity row (listTexts all) :=
      hrow.mono fun leaf hleaf => ⟨leaf, by simp [hleaf], rfl⟩
    have hanyRow : matcher.DecidesTexts context entity row (listTexts any) :=
      hrow.mono fun leaf hleaf => ⟨leaf, by simp [hleaf], rfl⟩
    have hnotRow : matcher.DecidesTexts context entity row (listTexts not) :=
      hrow.mono fun leaf hleaf => ⟨(leaf.1, !leaf.2),
        List.mem_append_right _ (List.mem_map_of_mem hleaf), rfl⟩
    -- The opposites joined with "or" mirror the items of the third list joined with "and".
    obtain ⟨hplain, hreads⟩ := plain_of_texts (leaves_of_listTrees hnot) hnotRow
    have hopposites := (treesHold_negate hcodecs .and _ _ hnegate hplain hreads).answer
      (listHolds_reading hcodecs .and hnot hnotRow)
    rw [treeHolds, List.append_assoc, reading, ← Junction.verdict?_append]
    refine matcher.treesHold_append (listHolds_reading hcodecs .and hall hallRow)
      (matcher.treesHold_append ?_ ?_)
    · rw [treesHold_alternatives]
      exact listHolds_reading hcodecs .or hany hanyRow
    · rw [treesHold_alternatives]
      exact hopposites

/-- The trees of a list, joined, are as true as the list reads. -/
theorem listHolds_reading (hcodecs : matcher.codecs.Shipped) (junction : Junction)
    {list : Option (List ScopeDocument)} {found : Option (List ScopeTree)}
    (h : listTrees context list = .ok found)
    (hrow : matcher.DecidesTexts context entity row (listTexts list)) :
    matcher.treesHold entity row junction (found.getD []) =
      .ok (listReading (matcher.textHolds context entity row) junction list) := by
  match list with
  | none =>
    cases h
    rw [Option.getD_none, treesHold, listReading]
  | some items =>
    rw [listTrees] at h
    split at h
    · rename_i trees htrees
      cases h
      exact treesHold_readings hcodecs junction htrees hrow
    · cases h

/-- The trees of several documents, joined, are as true as the documents read. -/
theorem treesHold_readings (hcodecs : matcher.codecs.Shipped) (junction : Junction)
    {documents : List ScopeDocument} {found : List ScopeTree}
    (h : trees context documents = .ok found)
    (hrow : matcher.DecidesTexts context entity row (allTexts documents)) :
    matcher.treesHold entity row junction found =
      .ok (junction.verdict? (readings (matcher.textHolds context entity row) documents)) := by
  match documents with
  | [] =>
    cases h
    rw [treesHold]
    rfl
  | document :: rest =>
    rw [trees] at h
    split at h
    · cases h
    · rename_i first hfirst
      split at h
      · rename_i following hfollowing
        cases h
        rw [allTexts] at hrow
        have hfirstRow : matcher.DecidesTexts context entity row document.signedTexts :=
          hrow.mono fun leaf hleaf => ⟨leaf, List.mem_append_left _ hleaf, rfl⟩
        have hrestRow : matcher.DecidesTexts context entity row (allTexts rest) :=
          hrow.mono fun leaf hleaf => ⟨leaf, List.mem_append_right _ hleaf, rfl⟩
        rw [readings, ← Junction.verdict?_append, ← List.singleton_append]
        exact matcher.treesHold_append
          ((treesHold_singleton ..).trans (treeHolds_reading hcodecs hfirst hfirstRow))
          (treesHold_readings hcodecs junction hfollowing hrestRow)
      · cases h

end

end Reading

/-- A scope document means what its keys say. With the codecs of the library, on a row that
decides the condition texts and holds scalars under the keys they read, the matcher answers for
the scope of the document as the document reads: all items of the first list, some item of the
second and not all items of the third, where what says nothing is left out. The leaves of the
scope are the texts in order, with the operator turned round for those under an odd number of
lists of the third kind and for no others. -/
theorem scopeMatches_reading (matcher : Matcher) (context : ParseContext) (entity : String)
    (row : Row) (document : ScopeDocument) (scope : Scope) (hcodecs : matcher.codecs.Shipped)
    (hscope : document.scope context = .ok scope)
    (hrow : matcher.DecidesTexts context entity row document.signedTexts) :
    matcher.scopeMatches entity row scope =
        .ok ((document.reading (matcher.textHolds context entity row)).getD true) ∧
      document.signedTexts.map (ScopeDocument.signedCondition context) =
        scope.tree.leaves.map .ok := by
  rw [ScopeDocument.scope] at hscope
  split at hscope
  · rename_i junction children htree
    cases hscope
    have hholds := treeHolds_reading hcodecs htree hrow
    rw [treeHolds] at hholds
    exact ⟨by rw [scopeMatches, hholds]; rfl, ScopeDocument.leaves_of_tree htree⟩
  · rename_i leaf htree
    cases hscope
    have hholds := treeHolds_reading hcodecs htree hrow
    rw [← treesHold_singleton matcher entity row .and] at hholds
    exact ⟨by rw [scopeMatches, hholds]; rfl, (ScopeDocument.leaves_of_tree htree).trans rfl⟩
  · cases hscope

/-- A document that asks for users who are not blocked, with an empty list of alternatives,
selects such a user from a scope with the opposite operator. -/
theorem scopeMatches_reading_of_unblocked :
    (Matcher.mk {} .passthrough).scopeMatches "user" [("blocked", .bool false)]
      ⟨.and, [.scope .or [], .scope .or [.condition
        ⟨some (.path "blocked"), some (.neq, .scalar (.bool true))⟩]]⟩ = .ok true := by
  have htext : Text.trim "blocked = true".toList = "blocked = true".toList := by decide +kernel
  have hsplit : splitOperator? "blocked = true".toList =
      some ("blocked ".toList, .eq, " true".toList) := by decide +kernel
  have hfield : Text.trim "blocked ".toList = "blocked".toList := by decide +kernel
  have hvalue : parseValue [] (Text.trim " true".toList) = .ok (.bool true) := by
    have htrim : Text.trim (Text.trim " true".toList) = "true".toList := by decide +kernel
    have hname : placeholder? "true".toList = none := by decide +kernel
    have hquotes : unquoted? "true".toList = none := by decide +kernel
    rw [parseValue, htrim, hname]
    dsimp only
    rw [hquotes]
    rfl
  have hcondition : parseCondition [] "blocked = true" =
      .ok ⟨some (.path "blocked"), some (.eq, .scalar (.bool true))⟩ := by
    rw [parseCondition, htext, if_neg (by decide), parseTrimmed, hsplit]
    dsimp only
    rw [hfield, if_neg (by decide), if_neg (by decide +kernel), hvalue]
    rfl
  have hscope : (ScopeDocument.group none (some []) (some [.condition "blocked = true"])).scope [] =
      .ok ⟨.and, [.scope .or [], .scope .or [.condition
        ⟨some (.path "blocked"), some (.neq, .scalar (.bool true))⟩]]⟩ := by
    simp [ScopeDocument.scope, ScopeDocument.tree, ScopeDocument.listTrees, ScopeDocument.trees,
      hcondition, ScopeTree.negateAll, ScopeTree.negate, Condition.negate, Condition.isEmpty,
      Operator.negate]
  have hrow : (Matcher.mk {} .passthrough).DecidesTexts [] "user" [("blocked", .bool false)]
      (ScopeDocument.group none (some []) (some [.condition "blocked = true"])).signedTexts := by
    intro leaf hleaf condition hparsed
    obtain rfl : leaf = ("blocked = true", true) := by
      simpa [ScopeDocument.signedTexts, ScopeDocument.listTexts, ScopeDocument.allTexts] using hleaf
    obtain rfl := Except.ok.inj (hcondition.symm.trans hparsed)
    refine ⟨fun c hc field codec hsubject _ hcodec => ?_, some false, rfl⟩
    obtain rfl := List.mem_singleton.1 hc
    obtain rfl : "blocked" = field := by simpa using hsubject
    obtain rfl := Except.ok.inj hcodec
    rfl
  refine (scopeMatches_reading _ [] _ _ _ _ Codecs.passthrough_shipped hscope hrow).1.trans ?_
  simp only [ScopeDocument.reading, ScopeDocument.listReading, ScopeDocument.readings, textHolds,
    hcondition]
  rfl

end Matcher

end ScopeQuery
