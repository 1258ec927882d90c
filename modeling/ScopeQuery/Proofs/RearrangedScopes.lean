import ScopeQuery.Proofs.BackendAgreement
import ScopeQuery.Proofs.DocumentLeaves
import ScopeQuery.Proofs.NeutralEdits

/-!
# Rearranged scopes

The verdict on a scope is that of its children that impose anything, joined, and the order of the
children and the nesting of equal junctions have no part in it. Evaluation goes from left to right
and stops early, so it agrees with this verdict where every leaf has one: then the trees that it
passes over could not have failed.
-/

namespace ScopeQuery

namespace Junction

/-- Joined verdicts have the same truth in any order. -/
theorem verdict?_perm (junction : Junction) {verdicts others : List Bool}
    (h : verdicts.Perm others) : junction.verdict? verdicts = junction.verdict? others := by
  have hdecides : junction.decides verdicts = junction.decides others := by
    cases junction with
    | and => exact h.all_eq
    | or => exact h.any_eq
  rw [verdict?, verdict?, h.isEmpty_eq, hdecides]

/-- Verdicts may be joined among others before those are. -/
theorem verdict?_splice (junction : Junction) (front inner back : List Bool) :
    junction.verdict? (front ++ ((junction.verdict? inner).toList ++ back)) =
      junction.verdict? (front ++ (inner ++ back)) := by
  have hlast (verdicts : List Bool) :
      (front ++ (verdicts ++ back)).Perm ((front ++ back) ++ verdicts) := by
    rw [List.append_assoc]
    exact .append_left front List.perm_append_comm
  rw [junction.verdict?_perm (hlast _), junction.verdict?_append,
    ← junction.verdict?_perm (hlast inner)]

end Junction

namespace ScopeTree

/-! ### Verdicts without an order -/

mutual

/-- The verdict on a tree, given those on the leaves: a scope joins the verdicts of its children,
and has none when no child has one. -/
def verdict? (truth : Condition → Option Bool) : ScopeTree → Option Bool
  | .condition c => truth c
  | .scope junction children => junction.verdict? (verdicts truth children)

/-- The verdicts of those trees that have one. -/
def verdicts (truth : Condition → Option Bool) : List ScopeTree → List Bool
  | [] => []
  | tree :: rest => (verdict? truth tree).toList ++ verdicts truth rest

end

/-- A single rearrangement somewhere in a tree: the children of a scope change places, or a child
with the junction of its scope gives way to its own children. -/
inductive Rearranged : ScopeTree → ScopeTree → Prop where
  /-- The children of a scope change places. -/
  | permute (place : Place) (junction : Junction) {children others : List ScopeTree}
      (h : children.Perm others) :
      Rearranged (place.fill (.scope junction children)) (place.fill (.scope junction others))
  /-- The children of a scope take its place in a scope of the same junction. -/
  | splice (place : Place) (junction : Junction) (front inner back : List ScopeTree) :
      Rearranged (place.fill (.scope junction (front ++ .scope junction inner :: back)))
        (place.fill (.scope junction (front ++ (inner ++ back))))

section Verdicts

variable (truth : Condition → Option Bool)

/-- The verdicts of several trees are those of each, one after another. -/
theorem verdicts_eq_flatMap (trees : List ScopeTree) :
    verdicts truth trees = trees.flatMap fun tree => (tree.verdict? truth).toList := by
  induction trees with
  | nil => rfl
  | cons tree trees ih => rw [verdicts, List.flatMap_cons, ih]

/-- The verdicts of trees one after another. -/
theorem verdicts_append (trees rest : List ScopeTree) :
    verdicts truth (trees ++ rest) = verdicts truth trees ++ verdicts truth rest := by
  simp only [verdicts_eq_flatMap, List.flatMap_append]

/-- Trees that change places take their verdicts with them. -/
theorem verdicts_perm {trees others : List ScopeTree} (h : trees.Perm others) :
    (verdicts truth trees).Perm (verdicts truth others) := by
  rw [verdicts_eq_flatMap, verdicts_eq_flatMap]
  exact h.flatMap_right _

/-- The whole has the verdict that it has with another tree of the same verdict at a place. -/
theorem verdict?_fill (place : Place) {tree other : ScopeTree}
    (h : other.verdict? truth = tree.verdict? truth) :
    (place.fill other).verdict? truth = (place.fill tree).verdict? truth := by
  induction place with
  | here => exact h
  | inside junction front place back ih =>
    rw [Place.fill, Place.fill, verdict?, verdict?, verdicts_append, verdicts_append, verdicts,
      verdicts, ih]

/-- A rearrangement keeps the verdict. -/
theorem verdict?_rearranged {tree other : ScopeTree} (h : Rearranged tree other) :
    other.verdict? truth = tree.verdict? truth := by
  cases h with
  | permute place junction hperm =>
    refine verdict?_fill truth place ?_
    rw [verdict?, verdict?, junction.verdict?_perm (verdicts_perm truth hperm)]
  | splice place junction front inner back =>
    refine verdict?_fill truth place ?_
    rw [verdict?, verdict?, verdicts_append, verdicts_append, verdicts_append, verdicts, verdict?,
      junction.verdict?_splice]

end Verdicts

/-! ### Leaves of rearranged trees -/

/-- The leaves of several trees are those of each, one after another. -/
theorem allLeaves_eq_flatMap (trees : List ScopeTree) : allLeaves trees = trees.flatMap leaves := by
  induction trees with
  | nil => rfl
  | cons tree trees ih => rw [allLeaves, List.flatMap_cons, ih]

/-- Trees that change places take their leaves with them. -/
theorem allLeaves_perm {trees others : List ScopeTree} (h : trees.Perm others) :
    (allLeaves trees).Perm (allLeaves others) := by
  rw [allLeaves_eq_flatMap, allLeaves_eq_flatMap]
  exact h.flatMap_right _

/-- The whole has the leaves that it has with another tree of the same leaves at a place, in some
order. -/
theorem leaves_fill (place : Place) {tree other : ScopeTree} (h : tree.leaves.Perm other.leaves) :
    (place.fill tree).leaves.Perm (place.fill other).leaves := by
  induction place with
  | here => exact h
  | inside junction front place back ih =>
    rw [Place.fill, Place.fill, leaves, leaves, allLeaves_append, allLeaves_append, allLeaves,
      allLeaves]
    exact .append_left _ (.append_right _ ih)

/-- A rearrangement keeps the leaves, in some order. -/
theorem leaves_rearranged {tree other : ScopeTree} (h : Rearranged tree other) :
    tree.leaves.Perm other.leaves := by
  cases h with
  | permute place junction hperm => exact leaves_fill place (allLeaves_perm hperm)
  | splice place junction front inner back =>
    refine leaves_fill place ?_
    rw [leaves, leaves, allLeaves_append, allLeaves_append, allLeaves_append, allLeaves, leaves]

/-- A run of rearrangements, there and back, keeps every verdict, and the leaves in some order. -/
theorem kept_of_rearrangements {tree other : ScopeTree}
    (h : Relation.EqvGen Rearranged tree other) :
    (∀ truth, other.verdict? truth = tree.verdict? truth) ∧ tree.leaves.Perm other.leaves := by
  induction h with
  | rel _ _ hstep =>
    exact ⟨fun truth => verdict?_rearranged truth hstep, leaves_rearranged hstep⟩
  | refl _ => exact ⟨fun _ => rfl, .refl _⟩
  | symm _ _ _ ih => exact ⟨fun truth => (ih.1 truth).symm, ih.2.symm⟩
  | trans _ _ _ _ _ ihFirst ihSecond =>
    exact ⟨fun truth => (ihSecond.1 truth).trans (ihFirst.1 truth), ihFirst.2.trans ihSecond.2⟩

end ScopeTree

namespace Matcher

open ScopeTree

variable (matcher : Matcher) (entity : String) (row : Row)

/-- The verdict on a condition alone, none when it imposes nothing or cannot be decided. -/
def verdictOn (condition : Condition) : Option Bool :=
  match matcher.conditionHolds entity row condition with
  | .ok verdict => verdict
  | .error _ => none

/-- Every one of some conditions is decided on its own. -/
def Decides (conditions : List Condition) : Prop :=
  ∀ c ∈ conditions, ∃ verdict, matcher.conditionHolds entity row c = .ok verdict

mutual

/-- A tree whose leaves are decided has the verdict of the joined leaves. -/
theorem treeHolds_eq_verdict? (tree : ScopeTree) (h : matcher.Decides entity row tree.leaves) :
    matcher.treeHolds entity row tree = .ok (tree.verdict? (matcher.verdictOn entity row)) := by
  match tree with
  | .condition c =>
    obtain ⟨verdict, hverdict⟩ := h c (by simp [leaves])
    rw [treeHolds, verdict?, verdictOn, hverdict]
  | .scope junction children =>
    rw [treeHolds, verdict?]
    exact treesHold_eq_verdict? junction children h

/-- Joined trees whose leaves are decided have their verdicts joined: what is passed over once a
verdict settles the whole would not have changed it. -/
theorem treesHold_eq_verdict? (junction : Junction) (trees : List ScopeTree)
    (h : matcher.Decides entity row (allLeaves trees)) :
    matcher.treesHold entity row junction trees =
      .ok (junction.verdict? (verdicts (matcher.verdictOn entity row) trees)) := by
  match trees with
  | [] => rw [treesHold]; rfl
  | tree :: rest =>
    have htree := treeHolds_eq_verdict? tree fun c hc => h c (by simp [allLeaves, hc])
    have hrest := treesHold_eq_verdict? junction rest fun c hc => h c (by simp [allLeaves, hc])
    rw [← treesHold_singleton matcher entity row junction tree] at htree
    have hjoined := matcher.treesHold_append htree hrest
    rw [List.singleton_append] at hjoined
    rw [hjoined, verdicts, junction.verdict?_append]

end

/-- What the evaluation of a scope gives when every leaf is decided: true when no leaf imposes
anything, and otherwise the verdicts of the children that have one, joined. -/
theorem scopeMatches_eq_decides (scope : Scope)
    (h : matcher.Decides entity row (allLeaves scope.children)) :
    matcher.scopeMatches entity row scope =
      .ok (if (allLeaves scope.children).any (·.imposes) then
        scope.junction.decides (verdicts (matcher.verdictOn entity row) scope.children)
      else true) := by
  have hholds := matcher.treesHold_eq_verdict? entity row scope.junction scope.children h
  have hnone := matcher.treesHold_eq_none_iff entity row scope.junction scope.children
  rw [hholds, Except.ok.injEq] at hnone
  rw [scopeMatches, hholds]
  by_cases hfree : ∀ c ∈ allLeaves scope.children, c.imposes = false
  · have hany : (allLeaves scope.children).any (·.imposes) = false := by simpa using hfree
    rw [hnone.2 hfree, hany]
    rfl
  · have hany : (allLeaves scope.children).any (·.imposes) = true := by simpa using hfree
    rw [hany, if_pos rfl]
    cases hverdicts : verdicts (matcher.verdictOn entity row) scope.children with
    | nil => exact absurd (hnone.1 (by rw [hverdicts]; rfl)) hfree
    | cons verdict later => rfl

/-- Matching does not depend on the order of children and on the nesting of equal junctions. On a
row that decides every leaf of a scope on its own, every child has the verdict of its leaves,
joined; the scope is satisfied when no leaf imposes anything, and otherwise as the verdicts of the
children that have one, joined with its junction, say; and every scope that comes from it when
children change places or are spliced, anywhere in the tree and any number of times, has the same
result. -/
theorem scopeMatches_rearranged {scope other : Scope}
    (hleaves : matcher.Decides entity row (allLeaves scope.children))
    (h : Relation.EqvGen Rearranged scope.tree other.tree) :
    matcher.scopeMatches entity row other = matcher.scopeMatches entity row scope ∧
      matcher.scopeMatches entity row scope =
        .ok (if (allLeaves scope.children).any (·.imposes) then
          scope.junction.decides (verdicts (matcher.verdictOn entity row) scope.children)
        else true) ∧
      ∀ child ∈ scope.children, matcher.treeHolds entity row child =
        .ok (child.verdict? (matcher.verdictOn entity row)) := by
  obtain ⟨hverdict, hperm⟩ := kept_of_rearrangements h
  have hother : matcher.Decides entity row (allLeaves other.children) :=
    fun c hc => hleaves c (hperm.mem_iff.2 hc)
  refine ⟨?_, matcher.scopeMatches_eq_decides entity row scope hleaves, fun child hchild => ?_⟩
  · have hsame : other.junction.verdict? (verdicts (matcher.verdictOn entity row) other.children) =
        scope.junction.verdict? (verdicts (matcher.verdictOn entity row) scope.children) :=
      hverdict (matcher.verdictOn entity row)
    rw [scopeMatches, scopeMatches, treesHold_eq_verdict? matcher entity row _ _ hother,
      treesHold_eq_verdict? matcher entity row _ _ hleaves, hsame]
  · refine matcher.treeHolds_eq_verdict? entity row child fun c hc => hleaves c ?_
    rw [allLeaves_eq_flatMap]
    exact List.mem_flatMap_of_mem hchild hc

/-- The condition that a ticket is older than a computed age, which declines. -/
def olderByChoice : ScopeTree :=
  .condition ⟨some (.path "age"), some (.gt, .computed fun _ => none)⟩

/-- The condition that a ticket has an owner. -/
def ownedBy (owner : String) : ScopeTree :=
  .condition ⟨some (.path "owner"), some (.eq, .scalar (.string owner))⟩

/-- Tickets that are open or of one owner, with alternatives inside alternatives. -/
def nestedAlternatives : Scope where
  junction := .or
  children :=
    [olderByChoice, .scope .or [Selection.openTicket, ownedBy "ann"],
      .scope .and [ownedBy "bob", .scope .or []]]

/-- The same alternatives side by side, the last one turned round. -/
def plainAlternatives : Scope where
  junction := .or
  children :=
    [olderByChoice, Selection.openTicket, ownedBy "ann", .scope .and [.scope .or [], ownedBy "bob"]]

/-- A ticket of the last owner is found in either arrangement, past a child that drops out and two
that are false. -/
theorem scopeMatches_of_plainAlternatives :
    let row : Row := [("status", .string "done"), ("owner", .string "bob")]
    Relation.EqvGen Rearranged nestedAlternatives.tree plainAlternatives.tree ∧
      plainMatcher.Decides "ticket" row (allLeaves nestedAlternatives.children) ∧
      plainMatcher.scopeMatches "ticket" row plainAlternatives = .ok true := by
  intro row
  have hspliced : Rearranged nestedAlternatives.tree
      (.scope .or [olderByChoice, Selection.openTicket, ownedBy "ann",
        .scope .and [ownedBy "bob", .scope .or []]]) :=
    .splice .here .or [olderByChoice] [Selection.openTicket, ownedBy "ann"] _
  have hturned : Rearranged
      (.scope .or [olderByChoice, Selection.openTicket, ownedBy "ann",
        .scope .and [ownedBy "bob", .scope .or []]]) plainAlternatives.tree :=
    .permute (.inside .or [olderByChoice, Selection.openTicket, ownedBy "ann"] .here []) .and
      (.swap _ _ [])
  have hrun : Relation.EqvGen Rearranged nestedAlternatives.tree plainAlternatives.tree :=
    .trans _ _ _ (.rel _ _ hspliced) (.rel _ _ hturned)
  have hdecides : plainMatcher.Decides "ticket" row (allLeaves nestedAlternatives.children) := by
    intro c hc
    simp only [nestedAlternatives, olderByChoice, Selection.openTicket, ownedBy, allLeaves, leaves,
      List.cons_append, List.nil_append, List.append_nil, List.mem_cons, List.not_mem_nil,
      or_false] at hc
    obtain rfl | rfl | rfl | rfl := hc <;> exact ⟨_, rfl⟩
  obtain ⟨hsame, -, -⟩ := scopeMatches_rearranged plainMatcher "ticket" row hdecides hrun
  exact ⟨hrun, hdecides, hsame.trans rfl⟩

end Matcher

end ScopeQuery
