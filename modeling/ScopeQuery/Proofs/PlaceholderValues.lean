import Mathlib.Data.List.Forall2
import ScopeQuery.Proofs.DocumentLeaves
import ScopeQuery.Proofs.PrintedConditions

/-!
# Values of placeholders

A condition text is taken apart before its placeholders are looked up, and a value of the
context is never read as text. So the contexts in which a document is read decide the values
of the leaves and nothing else, and a placeholder stands for its value whatever is in it.
-/

namespace ScopeQuery

/-! ### Trees without their values -/

namespace Condition

/-- The condition with null in the place of what it compares with. -/
def withoutValue (c : Condition) : Condition :=
  { c with test := c.test.map fun test => (test.1, .null) }

/-- The opposite of a condition has the opposite form, whatever the value is. -/
theorem negate_withoutValue {condition negated : Condition} (h : condition.negate = .ok negated) :
    condition.withoutValue.negate = .ok negated.withoutValue := by
  obtain ⟨hempty, rfl⟩ | ⟨operator, comparand, htest, rfl⟩ := negate_shape h
  · obtain ⟨subject, test⟩ := negated
    cases test with
    | none => exact h
    | some test => simp [isEmpty] at hempty
  · obtain ⟨subject, test⟩ := condition
    obtain rfl : test = some (operator, comparand) := htest
    simp [negate, withoutValue, isEmpty]

end Condition

namespace ScopeTree

mutual

/-- The tree with null in the place of every value. -/
def withoutValues : ScopeTree → ScopeTree
  | .condition c => .condition c.withoutValue
  | .scope junction children => .scope junction (allWithoutValues children)

/-- Several trees with null in the place of every value. -/
def allWithoutValues : List ScopeTree → List ScopeTree
  | [] => []
  | tree :: rest => withoutValues tree :: allWithoutValues rest

end

/-- Trees one after another, without their values. -/
theorem allWithoutValues_append (trees rest : List ScopeTree) :
    allWithoutValues (trees ++ rest) = allWithoutValues trees ++ allWithoutValues rest := by
  induction trees with
  | nil => rfl
  | cons tree trees ih =>
    rw [List.cons_append, allWithoutValues, ih, allWithoutValues, List.cons_append]

/-- Joined trees that may be left out, without their values. -/
theorem allWithoutValues_alternatives (junction : Junction) (found : Option (List ScopeTree)) :
    allWithoutValues (found.map (.scope junction)).toList =
      ((found.map allWithoutValues).map (.scope junction)).toList := by
  cases found <;> rfl

mutual

/-- The opposite of a tree has the opposite form, whatever the values are. -/
theorem negate_withoutValues {tree negated : ScopeTree} (h : tree.negate = .ok negated) :
    tree.withoutValues.negate = .ok negated.withoutValues := by
  match tree with
  | .condition c =>
    rw [negate] at h
    split at h
    · rename_i opposite hopposite
      cases h
      rw [withoutValues, negate, Condition.negate_withoutValue hopposite, withoutValues]
    · cases h
  | .scope junction children =>
    rw [negate] at h
    split at h
    · rename_i opposites hopposites
      cases h
      rw [withoutValues, negate, negateAll_withoutValues hopposites, withoutValues]
    · cases h

/-- The opposites of several trees have the opposite forms. -/
theorem negateAll_withoutValues {trees negated : List ScopeTree}
    (h : negateAll trees = .ok negated) :
    negateAll (allWithoutValues trees) = .ok (allWithoutValues negated) := by
  match trees with
  | [] =>
    cases h
    rfl
  | tree :: rest =>
    rw [negateAll] at h
    split at h
    · cases h
    · rename_i opposite hopposite
      split at h
      · rename_i opposites hopposites
        cases h
        rw [allWithoutValues, negateAll, negate_withoutValues hopposite,
          negateAll_withoutValues hopposites, allWithoutValues]
      · cases h

end

/-- Lists of the same forms have opposites of the same forms, if they are there. -/
theorem opposites_withoutValues {found others opposites otherOpposites : Option (List ScopeTree)}
    (hforms : others.map allWithoutValues = found.map allWithoutValues)
    (hsome : opposites.isSome = found.isSome)
    (hnegate : negateAll (found.getD []) = .ok (opposites.getD []))
    (hsomeOther : otherOpposites.isSome = others.isSome)
    (hnegateOther : negateAll (others.getD []) = .ok (otherOpposites.getD [])) :
    otherOpposites.map allWithoutValues = opposites.map allWithoutValues := by
  cases found with
  | none =>
    obtain rfl : others = none := by simpa using hforms
    obtain rfl : opposites = none := by simpa using hsome
    obtain rfl : otherOpposites = none := by simpa using hsomeOther
    rfl
  | some trees =>
    obtain ⟨otherTrees, rfl, hsame⟩ := Option.map_eq_some_iff.1 hforms
    obtain ⟨negated, rfl⟩ := Option.isSome_iff_exists.1 hsome
    obtain ⟨otherNegated, rfl⟩ := Option.isSome_iff_exists.1 hsomeOther
    have htrees := negateAll_withoutValues hnegate
    have hothers := negateAll_withoutValues hnegateOther
    dsimp only [Option.getD_some] at htrees hothers
    rw [hsame, htrees] at hothers
    rw [Option.map_some, Option.map_some, Except.ok.inj hothers]

end ScopeTree

/-! ### Conditions from their texts -/

section Contexts

variable {first second : ParseContext}

/-- Two contexts give a text the same field and operator. -/
theorem parseCondition_withoutValue {text : String} {condition other : Condition}
    (h : parseCondition first text = .ok condition)
    (hother : parseCondition second text = .ok other) :
    other.withoutValue = condition.withoutValue := by
  have hcondition := parseCondition_inv h
  have hread := parseCondition_inv hother
  cases hsplit : splitOperator? (Text.trim text.toList) with
  | none =>
    rw [hsplit] at hcondition hread
    rw [hcondition, hread]
  | some parts =>
    obtain ⟨before, operator, after⟩ := parts
    rw [hsplit] at hcondition hread
    obtain ⟨value, -, rfl⟩ := hcondition
    obtain ⟨otherValue, -, rfl⟩ := hread
    rfl

namespace ScopeDocument

open ScopeTree

mutual

/-- Two contexts give a document trees of the same form. -/
theorem tree_withoutValues {document : ScopeDocument} {tree other : ScopeTree}
    (h : document.tree first = .ok tree) (hother : document.tree second = .ok other) :
    other.withoutValues = tree.withoutValues := by
  match document with
  | .condition text =>
    rw [ScopeDocument.tree] at h hother
    split at h
    · rename_i condition hcondition
      cases h
      split at hother
      · rename_i otherCondition hread
        cases hother
        rw [withoutValues, withoutValues, parseCondition_withoutValue hcondition hread]
      · cases hother
    · cases h
  | .group all any not =>
    obtain ⟨allTrees, anyTrees, notTrees, opposites, hall, hany, hnot, hsome, hnegate, rfl⟩ :=
      tree_of_group h
    obtain ⟨allOthers, anyOthers, notOthers, otherOpposites, hallOther, hanyOther, hnotOther,
      hsomeOther, hnegateOther, rfl⟩ := tree_of_group hother
    have hallForms := listTrees_withoutValues hall hallOther
    have hanyForms := listTrees_withoutValues hany hanyOther
    have hnotForms := listTrees_withoutValues hnot hnotOther
    have hoppositeForms :=
      opposites_withoutValues hnotForms hsome hnegate hsomeOther hnegateOther
    have hallForm : allWithoutValues (allOthers.getD []) = allWithoutValues (allTrees.getD []) := by
      cases allTrees <;> cases allOthers <;> simp_all
    rw [withoutValues, withoutValues, allWithoutValues_append, allWithoutValues_append,
      allWithoutValues_append, allWithoutValues_append, allWithoutValues_alternatives,
      allWithoutValues_alternatives, allWithoutValues_alternatives, allWithoutValues_alternatives,
      hallForm, hanyForms, hoppositeForms]

/-- Two contexts give a list trees of the same forms. -/
theorem listTrees_withoutValues {list : Option (List ScopeDocument)}
    {found others : Option (List ScopeTree)} (h : listTrees first list = .ok found)
    (hother : listTrees second list = .ok others) :
    others.map allWithoutValues = found.map allWithoutValues := by
  match list with
  | none =>
    cases h
    cases hother
    rfl
  | some items =>
    rw [listTrees] at h hother
    split at h
    · rename_i trees htrees
      cases h
      split at hother
      · rename_i otherTrees hotherTrees
        cases hother
        rw [Option.map_some, Option.map_some, trees_withoutValues htrees hotherTrees]
      · cases hother
    · cases h

/-- Two contexts give several documents trees of the same forms. -/
theorem trees_withoutValues {documents : List ScopeDocument} {found others : List ScopeTree}
    (h : trees first documents = .ok found) (hother : trees second documents = .ok others) :
    allWithoutValues others = allWithoutValues found := by
  match documents with
  | [] =>
    cases h
    cases hother
    rfl
  | document :: rest =>
    rw [trees] at h hother
    split at h
    · cases h
    · rename_i tree htree
      split at h
      · rename_i following hfollowing
        cases h
        split at hother
        · cases hother
        · rename_i otherTree hotherTree
          split at hother
          · rename_i otherFollowing hotherFollowing
            cases hother
            rw [allWithoutValues, allWithoutValues, tree_withoutValues htree hotherTree,
              trees_withoutValues hfollowing hotherFollowing]
          · cases hother
      · cases h

end

end ScopeDocument

end Contexts

/-! ### Values from their texts -/

/-- A text that stands for the value of a name: the name in braces, with quotes around it or
without them. -/
inductive StandsFor (name : String) : List Char → Prop where
  /-- The name in braces. -/
  | braced : StandsFor name ('\x7b' :: name.toList ++ ['\x7d'])
  /-- The name in braces and in quotes. -/
  | quoted {quote : Char} (hquote : quote = '\'' ∨ quote = '"') :
    StandsFor name (quote :: ('\x7b' :: name.toList ++ ['\x7d']) ++ [quote])

/-- An item of a list as its text says it: that of a placeholder is the value of the name. -/
def ItemIn (context : ParseContext) (text : List Char) (item : Value) : Prop :=
  ∀ name, StandsFor name text → context.lookup name = some item

/-- The texts of the items between two square brackets: what stands between the commas,
trimmed, without the blank ones. -/
def itemTexts (inner : List Char) : List (List Char) :=
  ((elements none inner).map Text.trim).filter fun text => !text.isEmpty

/-- What a condition compares with, as the text of the value says it. -/
structure ValueIn (context : ParseContext) (text : List Char) (comparand : Comparand) : Prop where
  /-- A placeholder is the value of its name. -/
  whole : ∀ name, StandsFor name text →
    ∃ value, context.lookup name = some value ∧ comparand = .ofValue value
  /-- A text in square brackets is the list of its items, one for each text between commas that
  is not blank. -/
  items : ∀ inner, text = '[' :: inner ++ [']'] →
    ∃ items, comparand = .list items ∧ List.Forall₂ (ItemIn context) (itemTexts inner) items

/-- A leaf as its text says it, or its opposite when the text is to be turned round. -/
def ReadIn (context : ParseContext) (leaf : String × Bool) (c : Condition) : Prop :=
  ∀ before operator after,
    splitOperator? (Text.trim leaf.1.toList) = some (before, operator, after) →
    ∃ comparand, ValueIn context (Text.trim after) comparand ∧
      c = ⟨some (.path (String.ofList (Text.trim before))),
        some (if leaf.2 then operator.negate else operator, comparand)⟩

section Values

variable {context : ParseContext}

/-- A placeholder is looked up as it stands. -/
theorem parseValue_of_standsFor {name : String} {text : List Char} (h : StandsFor name text) :
    parseValue context text = resolvePlaceholder context name.toList := by
  cases h with
  | braced =>
    have hfirm : HasFirmEnds ('\x7b' :: name.toList ++ ['\x7d']) := .enclosed rfl rfl _
    rw [parseValue, hfirm.trim_self, placeholder?, stripEnds?_enclosed]
  | @quoted quote hquote =>
    have hfirm : HasFirmEnds (quote :: ('\x7b' :: name.toList ++ ['\x7d']) ++ [quote]) := by
      rcases hquote with rfl | rfl <;> exact .enclosed rfl rfl _
    have hbraced :
        placeholder? (quote :: ('\x7b' :: name.toList ++ ['\x7d']) ++ [quote]) = none := by
      rcases hquote with rfl | rfl <;> exact stripEnds?_of_ne (by decide) _ _
    have hunquoted : unquoted? (quote :: ('\x7b' :: name.toList ++ ['\x7d']) ++ [quote]) =
        some ('\x7b' :: name.toList ++ ['\x7d']) := by
      rcases hquote with rfl | rfl
      · rw [unquoted?, stripEnds?_enclosed, List.cons_append, stripEnds?_of_ne (by decide)]
      · rw [unquoted?, stripEnds?_enclosed]
    rw [parseValue, hfirm.trim_self, hbraced, hunquoted]
    dsimp only
    rw [placeholder?, stripEnds?_enclosed]

/-- What a placeholder is read as is the value of its name. -/
theorem lookup_of_parseValue {name : String} {text : List Char} {value : Value}
    (h : StandsFor name text) (hvalue : parseValue context text = .ok value) :
    context.lookup name = some value := by
  rw [parseValue_of_standsFor h, resolvePlaceholder, String.ofList_toList] at hvalue
  split at hvalue
  · rename_i found hfound
    cases hvalue
    exact hfound
  · cases hvalue

/-- The items that several texts are read as, one for each that is not blank. -/
theorem parseElements_itemsIn {texts : List (List Char)} {items : List Value}
    (h : parseElements context texts = .ok items) :
    List.Forall₂ (ItemIn context)
      ((texts.map Text.trim).filter fun text => !text.isEmpty) items := by
  induction texts generalizing items with
  | nil =>
    rw [parseElements] at h
    cases h
    exact .nil
  | cons text rest ih =>
    rw [parseElements] at h
    rw [List.map_cons]
    split at h
    · rename_i hblank
      rw [List.filter_cons_of_neg (by simp [hblank])]
      exact ih h
    · rename_i hfull
      rw [List.filter_cons_of_pos (by simpa using hfull)]
      split at h
      · cases h
      · rename_i value hvalue
        split at h
        · rename_i values hvalues
          cases h
          exact .cons (fun name hname => lookup_of_parseValue hname hvalue) (ih hvalues)
        · cases h

/-- A value is what its text says. -/
theorem valueIn_of_parseValue {text : List Char} {value : Value}
    (h : parseValue context text = .ok value) : ValueIn context text (.ofValue value) where
  whole name hname := ⟨value, lookup_of_parseValue hname h, rfl⟩
  items inner htext := by
    rw [htext, parseValue_bracketed] at h
    cases hitems : parseElements context (elements none inner) with
    | error error =>
      rw [hitems] at h
      cases h
    | ok items =>
      rw [hitems] at h
      cases h
      exact ⟨items, rfl, parseElements_itemsIn hitems⟩

/-- A leaf is what its text says. -/
theorem readIn_of_signedCondition {leaf : String × Bool} {c : Condition}
    (h : ScopeDocument.signedCondition context leaf = .ok c) : ReadIn context leaf c := by
  intro before operator after hsplit
  rw [ScopeDocument.signedCondition] at h
  split at h
  · rename_i written hwritten
    have hread := parseCondition_inv hwritten
    rw [hsplit] at hread
    obtain ⟨value, hvalue, rfl⟩ := hread
    refine ⟨.ofValue value, valueIn_of_parseValue hvalue, ?_⟩
    cases hodd : leaf.2 with
    | false =>
      rw [hodd] at h
      cases h
      rfl
    | true =>
      rw [hodd] at h
      cases h
      rfl
  · cases h

end Values

/-! ### Documents -/

/-- The tree as a scope, with a scope put around a condition. -/
def ScopeTree.scoped : ScopeTree → ScopeTree
  | .condition c => .scope .and [.condition c]
  | .scope junction children => .scope junction children

namespace ScopeDocument

variable {first second : ParseContext} {document : ScopeDocument} {scope other : Scope}

/-- The scope of a document is its tree as a scope. -/
theorem tree_of_scope (h : document.scope first = .ok scope) :
    ∃ tree, document.tree first = .ok tree ∧ scope.tree = tree.scoped := by
  rw [ScopeDocument.scope] at h
  split at h
  · rename_i junction children htree
    cases h
    exact ⟨_, htree, rfl⟩
  · rename_i leaf htree
    cases h
    exact ⟨_, htree, rfl⟩
  · cases h

/-- The leaves of a document's scope are what its texts say. -/
theorem leaves_readIn (h : document.scope first = .ok scope) :
    List.Forall₂ (ReadIn first) document.signedTexts scope.tree.leaves := by
  obtain ⟨tree, htree, hscope⟩ := tree_of_scope h
  have hleaves : scope.tree.leaves = tree.leaves := by
    rw [hscope]
    cases tree <;> rfl
  have htexts := leaves_of_tree htree
  rw [hleaves]
  rw [← List.forall₂_eq_eq_eq, List.forall₂_map_left_iff, List.forall₂_map_right_iff] at htexts
  exact htexts.imp fun _ _ hleaf => readIn_of_signedCondition hleaf

/-- The values of placeholders cannot change the structure of a scope. In two contexts a
document has scopes of one form: the same shape, junctions, fields and operators. In each of
them a leaf has the field and the operator of its text, a value that is a placeholder, in
quotes or not, is the value of the context under that name, whatever is in it, and a list in
square brackets has one item for each text between commas, which for a placeholder is the value
of the context. -/
theorem scope_in_contexts (h : document.scope first = .ok scope)
    (hother : document.scope second = .ok other) :
    other.tree.withoutValues = scope.tree.withoutValues ∧
      List.Forall₂ (ReadIn first) document.signedTexts scope.tree.leaves ∧
      List.Forall₂ (ReadIn second) document.signedTexts other.tree.leaves := by
  refine ⟨?_, leaves_readIn h, leaves_readIn hother⟩
  obtain ⟨tree, htree, hscope⟩ := tree_of_scope h
  obtain ⟨otherTree, hotherTree, hotherScope⟩ := tree_of_scope hother
  have hform := tree_withoutValues htree hotherTree
  have hscoped : ∀ tree : ScopeTree, tree.scoped.withoutValues = tree.withoutValues.scoped := by
    intro tree
    cases tree <;> rfl
  rw [hscope, hotherScope, hscoped, hscoped, hform]

/-- A document with a placeholder for a value, one in a list and one in quotes in a negated
list. -/
def ownedDocument : ScopeDocument :=
  .group (some [.condition "owner = \x7bwho\x7d", .condition "tag in [\x7btag\x7d, 'x']"]) none
    (some [.condition "name like \"\x7bpattern\x7d\""])

/-- A context for the placeholders of the document. -/
def ownedContext (who tag pattern : String) : ParseContext :=
  [("who", .string who), ("tag", .string tag), ("pattern", .string pattern)]

/-- The scope of the document in such a context. -/
def ownedScope (who tag pattern : String) : Scope :=
  ⟨.and, [.condition ⟨some (.path "owner"), some (.eq, .scalar (.string who))⟩,
    .condition ⟨some (.path "tag"), some (.isIn, .list [.string tag, .string "x"])⟩,
    .scope .or [.condition ⟨some (.path "name"), some (.notLike, .scalar (.string pattern))⟩]]⟩

/-- Operators, quotes, commas, brackets and braces in the values add no condition and no
item. -/
theorem scope_in_hostile_context :
    ownedDocument.scope (ownedContext "ann" "a" "A%") = .ok (ownedScope "ann" "a" "A%") ∧
      ownedDocument.scope (ownedContext "ann\" or 1 = 1" "a', 'b" "\x7bwho\x7d in [1, 2]") =
        .ok (ownedScope "ann\" or 1 = 1" "a', 'b" "\x7bwho\x7d in [1, 2]") ∧
      (ownedScope "ann\" or 1 = 1" "a', 'b" "\x7bwho\x7d in [1, 2]").tree.withoutValues =
        (ownedScope "ann" "a" "A%").tree.withoutValues := by
  have hscope : ∀ who tag pattern,
      ownedDocument.scope (ownedContext who tag pattern) = .ok (ownedScope who tag pattern) := by
    intro who tag pattern
    have hbraces : ∀ name : String, HasFirmEnds ('\x7b' :: name.toList ++ ['\x7d']) :=
      fun name => .enclosed rfl rfl name.toList
    have howner : parseCondition (ownedContext who tag pattern) "owner = \x7bwho\x7d" =
        .ok ⟨some (.path "owner"), some (.eq, .scalar (.string who))⟩ := by
      have htext : "owner = \x7bwho\x7d" =
          printedCondition "owner" .eq ('\x7b' :: "who".toList ++ ['\x7d']) := by decide
      rw [htext, parseCondition_of_printed (by simp) (by simp [IsFieldChar, Text.isBlank]) .eq
        (hbraces "who"), parseValue_of_standsFor .braced]
      rfl
    have htag : parseCondition (ownedContext who tag pattern) "tag in [\x7btag\x7d, 'x']" =
        .ok ⟨some (.path "tag"), some (.isIn, .list [.string tag, .string "x"])⟩ := by
      have htext : "tag in [\x7btag\x7d, 'x']" =
          printedCondition "tag" .isIn ('[' :: "\x7btag\x7d, 'x'".toList ++ [']']) := by decide
      have hitems : elements none "\x7btag\x7d, 'x'".toList =
          ['\x7b' :: "tag".toList ++ ['\x7d'], [' '] ++ enquoted '\'' "x"] := by decide
      have hx : parseElements (ownedContext who tag pattern) [[' '] ++ enquoted '\'' "x"] =
          .ok [.string "x"] :=
        parseElements_enquoted (.inl rfl) (by simp [IsPlaceholder]) oneBlank
          (by rw [parseElements])
      rw [htext, parseCondition_of_printed (by simp) (by simp [IsFieldChar, Text.isBlank]) .isIn
        (.enclosed rfl rfl _), parseValue_bracketed, hitems, parseElements,
        (hbraces "tag").trim_self, parseValue_of_standsFor .braced, hx]
      rfl
    have hname : parseCondition (ownedContext who tag pattern) "name like \"\x7bpattern\x7d\"" =
        .ok ⟨some (.path "name"), some (.like, .scalar (.string pattern))⟩ := by
      have htext : "name like \"\x7bpattern\x7d\"" = printedCondition "name" .like
          ('"' :: ('\x7b' :: "pattern".toList ++ ['\x7d']) ++ ['"']) := by decide
      rw [htext, parseCondition_of_printed (by simp) (by simp [IsFieldChar, Text.isBlank]) .like
        (.enclosed rfl rfl _), parseValue_of_standsFor (.quoted (.inr rfl))]
      rfl
    simp [ownedDocument, ownedScope, ScopeDocument.scope, ScopeDocument.tree,
      ScopeDocument.listTrees, ScopeDocument.trees, howner, htag, hname, ScopeTree.negateAll,
      ScopeTree.negate, Condition.negate, Condition.isEmpty, Operator.negate]
  have hfirst := hscope "ann" "a" "A%"
  have hsecond := hscope "ann\" or 1 = 1" "a', 'b" "\x7bwho\x7d in [1, 2]"
  exact ⟨hfirst, hsecond, (scope_in_contexts hfirst hsecond).1⟩

end ScopeDocument

end ScopeQuery
