import ScopeQuery.Matching.Row
import ScopeQuery.Scope.Reach
import ScopeQuery.Storage.Encoder

/-!
# Named columns

A matcher looks a row up under the storage keys of the fields that a scope names, and nowhere
else, and a missing key is read as null. So rows that agree on these columns get the same verdict
or the same error, whatever else they hold.
-/

namespace ScopeQuery

namespace Row

variable (front back : Row) {column key : String} (value : Value)

/-- An entry among others is not seen under another key. -/
theorem value_put_of_ne (h : key ≠ column) :
    Row.value (front ++ (column, value) :: back) key = Row.value (front ++ back) key := by
  have hother : (key == column) = false := beq_eq_false_iff_ne.2 h
  rw [Row.value, Row.value, List.lookup_append, List.lookup_append, List.lookup_cons, hother]

/-- A null under a missing key is read like the missing key. -/
theorem value_put_null (h : (front ++ back).lookup column = none) (key : String) :
    Row.value (front ++ (column, .null) :: back) key = Row.value (front ++ back) key := by
  by_cases hkey : key = column
  · subst hkey
    have hfront : front.lookup key = none := by
      rw [List.lookup_append, Option.or_eq_none_iff] at h
      exact h.1
    rw [Row.value, Row.value, h, List.lookup_append, hfront, List.lookup_cons, beq_self_eq_true]
    rfl
  · exact value_put_of_ne front back .null hkey

end Row

/-- The column that a condition names: the storage key of its field, if it is about a field of the
entity itself and the field has a codec. -/
def Codecs.column? (codecs : Codecs) (entity : String) (condition : Condition) : Option String :=
  match condition.subject with
  | some (.path path) =>
    if hasHop path then none
    else
      match codecs entity path with
      | .ok codec => some codec.key
      | .error _ => none
  | _ => none

namespace Matcher

/-- The columns that the leaves of a scope name, from left to right. -/
def columns (matcher : Matcher) (entity : String) (scope : Scope) : List String :=
  (ScopeTree.allLeaves scope.children).filterMap (matcher.codecs.column? entity)

section Agreement

variable {matcher : Matcher} {entity : String} {row other : Row}

/-- Rows that agree on the column of a resolved condition satisfy it alike. -/
theorem resolvedHolds_of_agree {condition : Condition}
    (h : ∀ column, matcher.codecs.column? entity condition = some column →
      other.value column = row.value column) :
    matcher.resolvedHolds entity other condition =
      matcher.resolvedHolds entity row condition := by
  unfold resolvedHolds
  split
  · next path hsubject =>
    split
    · rfl
    · next hhop =>
      unfold fieldHolds
      cases hcodec : matcher.codecs entity path with
      | error error => rfl
      | ok codec =>
        have hcolumn : matcher.codecs.column? entity condition = some codec.key := by
          simp [Codecs.column?, hsubject, hhop, hcodec]
        dsimp only
        rw [h codec.key hcolumn]
  · rfl

/-- Rows that agree on the column of a condition satisfy it alike: its resolved form, which is
looked up, is about the same field. -/
theorem conditionHolds_of_agree {condition : Condition}
    (h : ∀ column, matcher.codecs.column? entity condition = some column →
      other.value column = row.value column) :
    matcher.conditionHolds entity other condition =
      matcher.conditionHolds entity row condition := by
  unfold conditionHolds
  cases hresolved : condition.resolved with
  | error error => rfl
  | ok found =>
    cases found with
    | none => rfl
    | some result =>
      have hcolumn : matcher.codecs.column? entity result =
          matcher.codecs.column? entity condition := by
        rw [Codecs.column?, Codecs.column?, Condition.subject_of_resolved hresolved]
      dsimp only
      rw [resolvedHolds_of_agree fun column hmine => h column (hcolumn ▸ hmine)]

mutual

/-- Rows that agree on the columns of its leaves satisfy a tree alike. -/
theorem treeHolds_of_agree (tree : ScopeTree)
    (h : ∀ c ∈ tree.leaves, ∀ column, matcher.codecs.column? entity c = some column →
      other.value column = row.value column) :
    matcher.treeHolds entity other tree = matcher.treeHolds entity row tree := by
  match tree with
  | .condition c =>
    rw [treeHolds, treeHolds]
    exact conditionHolds_of_agree (h c (by simp [ScopeTree.leaves]))
  | .scope junction children =>
    rw [treeHolds, treeHolds]
    exact treesHold_of_agree junction children h

/-- Rows that agree on the columns of their leaves satisfy joined trees alike: evaluation goes on
or stops at the same tree. -/
theorem treesHold_of_agree (junction : Junction) (trees : List ScopeTree)
    (h : ∀ c ∈ ScopeTree.allLeaves trees, ∀ column,
      matcher.codecs.column? entity c = some column → other.value column = row.value column) :
    matcher.treesHold entity other junction trees =
      matcher.treesHold entity row junction trees := by
  match trees with
  | [] => rw [treesHold, treesHold]
  | tree :: rest =>
    have hfirst := treeHolds_of_agree tree fun c hc => h c (by simp [ScopeTree.allLeaves, hc])
    have hrest := treesHold_of_agree junction rest fun c hc =>
      h c (by simp [ScopeTree.allLeaves, hc])
    rw [treesHold, treesHold, hfirst, hrest]

end

end Agreement

/-- Matching depends on the named columns alone. A row that agrees with another one on every column
that the leaves of a scope name, a missing key read as null, has the same verdict or the same error.
In particular a null may be put under a missing key, and any value under a column that no leaf
names, at any place among the other entries. -/
theorem scopeMatches_reads_columns (matcher : Matcher) (entity : String) (scope : Scope)
    (row : Row) :
    (∀ other : Row, (∀ column ∈ matcher.columns entity scope,
        other.value column = row.value column) →
      matcher.scopeMatches entity other scope = matcher.scopeMatches entity row scope) ∧
    ∀ (front back : Row) (column : String) (value : Value), row = front ++ back →
      (row.lookup column = none ∧ value = .null ∨ column ∉ matcher.columns entity scope) →
      matcher.scopeMatches entity (front ++ (column, value) :: back) scope =
        matcher.scopeMatches entity row scope := by
  have hagree (other : Row)
      (h : ∀ column ∈ matcher.columns entity scope, other.value column = row.value column) :
      matcher.scopeMatches entity other scope = matcher.scopeMatches entity row scope := by
    have hleaves : ∀ c ∈ ScopeTree.allLeaves scope.children, ∀ column,
        matcher.codecs.column? entity c = some column →
          other.value column = row.value column :=
      fun c hc column hcolumn => h column (List.mem_filterMap.2 ⟨c, hc, hcolumn⟩)
    rw [scopeMatches, scopeMatches, treesHold_of_agree scope.junction scope.children hleaves]
  refine ⟨hagree, ?_⟩
  rintro front back column value rfl hentry
  refine hagree _ fun key hkey => ?_
  obtain ⟨hmissing, rfl⟩ | hunnamed := hentry
  · exact Row.value_put_null front back hmissing key
  · refine Row.value_put_of_ne front back value ?_
    rintro rfl
    exact hunnamed hkey

/-- Whether a user is active is stored as a letter in a column of another name. -/
def activeUsers : Matcher where
  settings := {}
  codecs := (CodecRegistry.mk [] false |>.register "user" "active"
    (Column.codec ⟨"active", "is_active", some Encoder.yesNo⟩)).codecs

/-- Active users without a manager, or older than thirty. -/
def activeScope : Scope where
  junction := .and
  children :=
    [.condition ⟨some (.path "active"), some (.eq, .scalar (.bool true))⟩,
      .scope .or
        [.condition ⟨some (.path "manager"), some (.eq, .null)⟩,
          .condition ⟨some (.path "age"), some (.gt, .scalar (.number (Number.ofNat 30)))⟩]]

/-- The name of the field is no column of the row: an entry under it is not looked at, and neither
is a null for the missing manager. -/
theorem scopeMatches_reads_is_active :
    let row : Row := [("is_active", .string "Y")]
    activeUsers.columns "user" activeScope = ["is_active", "manager", "age"] ∧
      activeUsers.scopeMatches "user" row activeScope = .ok true ∧
      activeUsers.scopeMatches "user" [("manager", .null), ("is_active", .string "Y")]
        activeScope = .ok true ∧
      activeUsers.scopeMatches "user" [("is_active", .string "Y"), ("active", .bool false)]
        activeScope = .ok true := by
  intro row
  have hcolumns : activeUsers.columns "user" activeScope = ["is_active", "manager", "age"] := by
    decide +kernel
  have hmatches : activeUsers.scopeMatches "user" row activeScope = .ok true := rfl
  have hreads := scopeMatches_reads_columns activeUsers "user" activeScope row
  refine ⟨hcolumns, hmatches, ?_, ?_⟩
  · exact (hreads.2 [] row "manager" .null rfl (.inl ⟨rfl, rfl⟩)).trans hmatches
  · refine (hreads.1 _ fun column hcolumn => ?_).trans hmatches
    rw [hcolumns] at hcolumn
    simp only [List.mem_cons, List.not_mem_nil, or_false] at hcolumn
    obtain rfl | rfl | rfl := hcolumn <;> rfl

end Matcher

end ScopeQuery
