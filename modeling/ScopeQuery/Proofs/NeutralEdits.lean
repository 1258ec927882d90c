import Mathlib.Logic.Relation
import ScopeQuery.Proofs.EmptyTrees

/-!
# Neutral edits

An empty tree put among the children of a scope, or a scope put around a single tree, changes
no verdict on any row. Collecting the defaults of a selection counts children, though, and not
those that impose anything: beside an empty tree the only alternative of an "or" scope is one of
two, and what it promises is left out. This is the one edit that changes the defaults.
-/

namespace ScopeQuery

namespace ScopeTree

/-! ### Places in a tree -/

/-- A place in a tree: the scopes around it from the outside in, each with the children that
stand beside the way to the place. -/
inductive Place where
  /-- The whole tree. -/
  | here
  /-- A place in one of the children of a scope. -/
  | inside (junction : Junction) (front : List ScopeTree) (place : Place) (back : List ScopeTree)

/-- The tree with a given tree at the place. -/
def Place.fill : Place → ScopeTree → ScopeTree
  | .here, tree => tree
  | .inside junction front place back, tree =>
    .scope junction (front ++ place.fill tree :: back)

/-- Whether what stands at the place is required: no scope around it joins it with
alternatives. -/
def Place.IsRequired : Place → Prop
  | .here => True
  | .inside junction front place back =>
    (junction = .or → front ++ back = []) ∧ place.IsRequired

/-- A single edit that imposes nothing: an empty tree is put among the children of a scope, or a
scope is put around a tree. -/
inductive Edited : ScopeTree → ScopeTree → Prop where
  /-- An empty tree is put among the children of a scope. -/
  | insert (place : Place) (junction : Junction) (front : List ScopeTree) {tree : ScopeTree}
      (h : tree.isEmpty = true) (back : List ScopeTree) :
      Edited (place.fill (.scope junction (front ++ back)))
        (place.fill (.scope junction (front ++ tree :: back)))
  /-- A tree becomes the only child of a scope. -/
  | wrap (place : Place) (tree : ScopeTree) (junction : Junction) :
      Edited (place.fill tree) (place.fill (.scope junction [tree]))

/-- An edit that puts an empty tree beside the only alternative of a required scope, when this
alternative promises something. -/
inductive Crowded : ScopeTree → ScopeTree → Prop where
  /-- The empty tree is put in front of the alternative or behind it. -/
  | insert (place : Place) (hplace : place.IsRequired) (front back : List ScopeTree)
      {only tree : ScopeTree} (honly : front ++ back = [only]) (hpromise : only.defaults ≠ [])
      (h : tree.isEmpty = true) :
      Crowded (place.fill (.scope .or (front ++ back)))
        (place.fill (.scope .or (front ++ tree :: back)))

/-! ### Defaults at a place -/

mutual

/-- An empty tree promises nothing. -/
theorem defaults_of_isEmpty {tree : ScopeTree} (h : tree.isEmpty = true) : tree.defaults = [] := by
  match tree with
  | .condition ⟨none, none⟩ => rfl
  | .scope junction children =>
    have hchildren := allDefaults_of_allEmpty h
    rw [defaults, hchildren, ite_self]

/-- Empty trees promise nothing. -/
theorem allDefaults_of_allEmpty {trees : List ScopeTree} (h : allEmpty trees = true) :
    allDefaults trees = [] := by
  match trees with
  | [] => rfl
  | tree :: rest =>
    rw [allEmpty, Bool.and_eq_true] at h
    rw [allDefaults, defaults_of_isEmpty h.1, allDefaults_of_allEmpty h.2]
    rfl

end

section Siblings

variable {junction : Junction} {front back : List ScopeTree}

/-- A child without alternatives adds what it promises to what its siblings promise. -/
theorem defaults_of_required (h : junction = .or → front ++ back = []) (tree : ScopeTree) :
    (ScopeTree.scope junction (front ++ tree :: back)).defaults =
      allDefaults front ++ (tree.defaults ++ allDefaults back) := by
  have hjoined : ¬(junction = .or ∧ 1 < (front ++ tree :: back).length) := by
    rintro ⟨hor, hlength⟩
    have hsiblings := congrArg List.length (h hor)
    simp only [List.length_append, List.length_cons, List.length_nil] at hlength hsiblings
    omega
  rw [defaults, if_neg hjoined, allDefaults_append, allDefaults]

/-- One of several alternatives promises nothing. -/
theorem defaults_of_alternative (h : ¬(junction = .or → front ++ back = []))
    (tree : ScopeTree) : (ScopeTree.scope junction (front ++ tree :: back)).defaults = [] := by
  rw [Classical.not_imp] at h
  obtain ⟨hor, hsiblings⟩ := h
  have hlength : 1 < (front ++ tree :: back).length := by
    have hpositive := List.length_pos_iff.2 hsiblings
    simp only [List.length_append, List.length_cons] at hpositive ⊢
    omega
  rw [defaults, if_pos ⟨hor, hlength⟩]

end Siblings

namespace Place

/-- Two trees at a place leave the same defaults of the whole exactly when they promise the same
or when the place is not required. -/
theorem defaults_fill_eq_iff (place : Place) (tree other : ScopeTree) :
    (place.fill other).defaults = (place.fill tree).defaults ↔
      (place.IsRequired → other.defaults = tree.defaults) := by
  induction place with
  | here => simp [fill, IsRequired]
  | inside junction front place back ih =>
    rw [fill, fill, IsRequired]
    by_cases h : junction = .or → front ++ back = []
    · rw [defaults_of_required h, defaults_of_required h, List.append_cancel_left_eq,
        List.append_cancel_right_eq, ih, and_iff_right h]
    · rw [defaults_of_alternative h, defaults_of_alternative h]
      exact iff_of_true rfl fun hplace => absurd hplace.1 h

/-- Where a tree promises no more than another, the whole promises no more. -/
theorem defaults_fill_sublist (place : Place) {tree other : ScopeTree}
    (h : other.defaults.Sublist tree.defaults) :
    (place.fill other).defaults.Sublist (place.fill tree).defaults := by
  induction place with
  | here => exact h
  | inside junction front place back ih =>
    rw [fill, fill]
    by_cases hrequired : junction = .or → front ++ back = []
    · rw [defaults_of_required hrequired, defaults_of_required hrequired]
      exact (ih.append_right _).append_left _
    · simp only [defaults_of_alternative hrequired, List.nil_sublist]

end Place

/-! ### Defaults after edits -/

/-- A scope around a single tree promises what the tree promises. -/
theorem defaults_wrap (junction : Junction) (tree : ScopeTree) :
    (ScopeTree.scope junction [tree]).defaults = tree.defaults := by
  have halone : junction = .or → ([] : List ScopeTree) ++ [] = [] := fun _ => rfl
  have hrequired := defaults_of_required halone tree
  simpa [allDefaults] using hrequired

/-- Beside an empty tree the children of a scope promise what they promised without it, unless
they are a single alternative, which is one of two now. -/
theorem defaults_insert (junction : Junction) (front : List ScopeTree) {tree : ScopeTree}
    (h : tree.isEmpty = true) (back : List ScopeTree) :
    (ScopeTree.scope junction (front ++ tree :: back)).defaults =
      if junction = .or ∧ (front ++ back).length = 1 then []
      else (ScopeTree.scope junction (front ++ back)).defaults := by
  have hpromise : allDefaults (front ++ tree :: back) = allDefaults (front ++ back) := by
    rw [allDefaults_append, allDefaults, defaults_of_isEmpty h, List.nil_append,
      allDefaults_append]
  have hlength : (front ++ tree :: back).length = (front ++ back).length + 1 := by
    simp only [List.length_append, List.length_cons]
    omega
  rw [defaults, defaults, hpromise, hlength]
  generalize (front ++ back).length = count
  cases junction with
  | and => simp
  | or =>
    match count with
    | 0 => simp
    | 1 => simp
    | count + 2 => simp

/-- An edit takes defaults away only, and it takes some away exactly when an empty tree is put
beside the only alternative of a required scope that promises something. -/
theorem Edited.defaults {tree changed : ScopeTree} (h : Edited tree changed) :
    changed.defaults.Sublist tree.defaults ∧
      (changed.defaults = tree.defaults ↔ ¬Crowded tree changed) := by
  have hcrowded : Crowded tree changed → changed.defaults ≠ tree.defaults := by
    rintro ⟨place, hplace, front, back, honly, hpromise, hempty⟩ heq
    have hsame := (place.defaults_fill_eq_iff _ _).1 heq hplace
    rw [defaults_insert .or front hempty back, if_pos ⟨rfl, by rw [honly]; rfl⟩, honly,
      defaults_wrap] at hsame
    exact hpromise hsame.symm
  refine ⟨?_, fun heq hedit => hcrowded hedit heq, ?_⟩
  · cases h with
    | wrap place only junction =>
      refine place.defaults_fill_sublist ?_
      simp only [defaults_wrap, List.Sublist.refl]
    | insert place junction front hempty back =>
      refine place.defaults_fill_sublist ?_
      rw [defaults_insert junction front hempty back]
      split
      · exact List.nil_sublist _
      · exact .refl _
  · intro hedit
    cases h with
    | wrap place only junction =>
      exact (place.defaults_fill_eq_iff _ _).2 fun _ => defaults_wrap junction only
    | insert place junction front hempty back =>
      refine (place.defaults_fill_eq_iff _ _).2 fun hplace => ?_
      rw [defaults_insert junction front hempty back]
      split
      · rename_i hsingle
        obtain ⟨rfl, hlength⟩ := hsingle
        obtain ⟨only, honly⟩ := List.length_eq_one_iff.1 hlength
        rw [honly, defaults_wrap]
        -- What the only alternative promises is lost, so it promises nothing.
        refine Classical.byContradiction fun hpromise => ?_
        exact hedit (.insert place hplace front back honly (Ne.symm hpromise) hempty)
      · rfl

/-- A run of edits takes defaults away only. -/
theorem defaults_sublist_of_edits {tree changed : ScopeTree}
    (h : Relation.ReflTransGen Edited tree changed) : changed.defaults.Sublist tree.defaults := by
  induction h with
  | refl => exact .refl _
  | tail _ hedit ih => exact hedit.defaults.1.trans ih

/-- A run of edits leaves the defaults as they were exactly when it can be made without an edit
that crowds an only alternative. -/
theorem defaults_eq_iff_of_edits {tree changed : ScopeTree}
    (h : Relation.ReflTransGen Edited tree changed) :
    changed.defaults = tree.defaults ↔
      Relation.ReflTransGen (fun before after => Edited before after ∧ ¬Crowded before after)
        tree changed := by
  constructor
  · intro heq
    induction h with
    | refl => exact .refl
    | @tail middle last hrun hedit ih =>
      have hlast := hedit.defaults.1
      have hmiddle := defaults_sublist_of_edits hrun
      -- The defaults shrink with every edit, so they are the same all along the run.
      have hkept : middle.defaults = tree.defaults := by
        refine hmiddle.eq_of_length_le ?_
        rw [← heq]
        exact hlast.length_le
      refine .tail (ih hkept) ⟨hedit, hedit.defaults.2.1 ?_⟩
      rw [heq, hkept]
  · intro hrun
    clear h
    induction hrun with
    | refl => rfl
    | tail _ hedit ih => rw [hedit.1.defaults.2.2 hedit.2, ih]

end ScopeTree

/-! ### Rows after edits -/

namespace Matcher

open ScopeTree

variable (matcher : Matcher) (entity : String) (row : Row)

/-- Trees have the verdict they have with another tree of the same verdict among them. -/
theorem treesHold_replaced {tree other : ScopeTree}
    (h : matcher.treeHolds entity row other = matcher.treeHolds entity row tree)
    (junction : Junction) (front back : List ScopeTree) :
    matcher.treesHold entity row junction (front ++ other :: back) =
      matcher.treesHold entity row junction (front ++ tree :: back) := by
  induction front with
  | nil => rw [List.nil_append, List.nil_append, treesHold, treesHold, h]
  | cons first front ih => rw [List.cons_append, List.cons_append, treesHold, treesHold, ih]

/-- Trees have the verdict they have without an empty tree among them. -/
theorem treesHold_inserted {tree : ScopeTree} (h : tree.isEmpty = true) (junction : Junction)
    (front back : List ScopeTree) :
    matcher.treesHold entity row junction (front ++ tree :: back) =
      matcher.treesHold entity row junction (front ++ back) := by
  induction front with
  | nil => rw [List.nil_append, List.nil_append, treesHold, treeHolds_of_isEmpty _ _ _ h]
  | cons first front ih => rw [List.cons_append, List.cons_append, treesHold, treesHold, ih]

/-- The whole has the verdict it has with another tree of the same verdict at a place. -/
theorem treeHolds_fill (place : Place) {tree other : ScopeTree}
    (h : matcher.treeHolds entity row other = matcher.treeHolds entity row tree) :
    matcher.treeHolds entity row (place.fill other) =
      matcher.treeHolds entity row (place.fill tree) := by
  induction place with
  | here => exact h
  | inside junction front place back ih =>
    rw [Place.fill, Place.fill, treeHolds, treeHolds]
    exact matcher.treesHold_replaced entity row ih junction front back

/-- An edit leaves the verdict on every row as it was, and the error if there is one. -/
theorem treeHolds_edited {tree changed : ScopeTree} (h : Edited tree changed) :
    matcher.treeHolds entity row changed = matcher.treeHolds entity row tree := by
  cases h with
  | insert place junction front hempty back =>
    refine matcher.treeHolds_fill entity row place ?_
    rw [treeHolds, treeHolds]
    exact matcher.treesHold_inserted entity row hempty junction front back
  | wrap place only junction =>
    refine matcher.treeHolds_fill entity row place ?_
    rw [treeHolds]
    exact matcher.treesHold_singleton entity row junction only

/-- A run of edits leaves the verdict on every row as it was, and the error if there is one. -/
theorem treeHolds_edits {tree changed : ScopeTree}
    (h : Relation.ReflTransGen Edited tree changed) :
    matcher.treeHolds entity row changed = matcher.treeHolds entity row tree := by
  induction h with
  | refl => rfl
  | tail _ hedit ih => rw [matcher.treeHolds_edited entity row hedit, ih]

end Matcher

namespace Selection

open ScopeTree

/-- What edits that impose nothing leave of the defaults of a selection. However many empty trees
are put among the children of its scopes, and however many scopes around single trees, a row is
selected as before, and no default is new. The defaults are those from before exactly when the
edits can be made without putting an empty tree beside the only alternative of a required scope
that promises something. -/
theorem defaults_after_edits (name : String) {children changed : List ScopeTree}
    (h : Relation.ReflTransGen Edited (.scope .and children) (.scope .and changed)) :
    (∀ (matcher : Matcher) (row : Row),
      matcher.selectionMatches row ⟨name, changed⟩ =
        matcher.selectionMatches row ⟨name, children⟩) ∧
    (Selection.mk name changed).defaults.Sublist (Selection.mk name children).defaults ∧
    ((Selection.mk name changed).defaults = (Selection.mk name children).defaults ↔
      Relation.ReflTransGen (fun before after => Edited before after ∧ ¬Crowded before after)
        (.scope .and children) (.scope .and changed)) := by
  refine ⟨fun matcher row => ?_, defaults_sublist_of_edits h, defaults_eq_iff_of_edits h⟩
  have hverdict := matcher.treeHolds_edits name row h
  rw [Matcher.treeHolds, Matcher.treeHolds] at hverdict
  rw [Matcher.selectionMatches, Matcher.selectionMatches, Matcher.scopeMatches,
    Matcher.scopeMatches]
  dsimp only [Selection.scope]
  rw [hverdict]

/-- The condition that a ticket is open. -/
def openTicket : ScopeTree :=
  .condition ⟨some (.path "status"), some (.eq, .scalar (.string "open"))⟩

/-- A scope is put around the condition, and an empty tree beside the scope: the selected tickets
are the same, and a new one is still open. -/
theorem defaults_after_edits_of_open :
    (Selection.mk "ticket" [.scope .or [openTicket], .condition .empty]).defaults =
        [("status", .string "open")] ∧
      plainMatcher.selectionMatches [("status", .string "done")]
        ⟨"ticket", [.scope .or [openTicket], .condition .empty]⟩ = .ok false ∧
      Relation.ReflTransGen (fun before after => Edited before after ∧ ¬Crowded before after)
        (.scope .and [openTicket]) (.scope .and [.scope .or [openTicket], .condition .empty]) := by
  have hwrapped : Edited (.scope .and [openTicket]) (.scope .and [.scope .or [openTicket]]) :=
    .wrap (.inside .and [] .here []) openTicket .or
  have hinserted : Edited (.scope .and [.scope .or [openTicket]])
      (.scope .and [.scope .or [openTicket], .condition .empty]) :=
    .insert .here .and [.scope .or [openTicket]] rfl []
  have hrun := (Relation.ReflTransGen.single hwrapped).tail hinserted
  obtain ⟨hrows, -, hkept⟩ := defaults_after_edits "ticket" hrun
  exact ⟨rfl, (hrows plainMatcher _).trans rfl, hkept.1 rfl⟩

/-- An empty condition beside the only alternative changes no selected row, but a new ticket is no
longer open. -/
theorem defaults_crowded_by_empty :
    Edited (.scope .and [.scope .or [openTicket]])
        (.scope .and [.scope .or [openTicket, .condition .empty]]) ∧
      (Selection.mk "ticket" [.scope .or [openTicket]]).defaults =
        [("status", .string "open")] ∧
      (Selection.mk "ticket" [.scope .or [openTicket, .condition .empty]]).defaults = [] :=
  ⟨.insert (.inside .and [] .here []) .or [openTicket] rfl [], rfl, rfl⟩

end Selection

end ScopeQuery
