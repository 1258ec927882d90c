import ScopeQuery.Unicode.Fold

/-!
# Merged character sets

All combinations of two sets of characters are one merge of their boundaries. A merge crosses the
boundaries of both sets in ascending order and keeps those where the combined membership changes,
so what it writes are ascending boundaries again, and membership before and behind each of them is
the operation on the two memberships there. A set of code points built by such unions holds exactly
these.
-/

namespace ScopeQuery.CharSet

/-! ### Crossing boundaries -/

/-- In front of all boundaries membership is the given one. -/
theorem insideAt_of_lt {n : Nat} {inside : Bool} {bounds : List Nat} (h : ∀ b ∈ bounds, n < b) :
    insideAt n inside bounds = inside := by
  cases bounds with
  | nil => rfl
  | cons b rest => exact if_pos (h b List.mem_cons_self)

/-- Going past a position changes membership and boundaries: either a boundary of the set is there
and it is crossed, or all its boundaries are behind the position and are kept. -/
inductive Past (position : Nat) : Bool → List Nat → Bool → List Nat → Prop
  /-- A boundary is crossed. -/
  | crossed {inside : Bool} {rest : List Nat} (h : ∀ b ∈ rest, position < b) :
    Past position inside (position :: rest) (!inside) rest
  /-- Nothing changes. -/
  | kept {inside : Bool} {bounds : List Nat} (h : ∀ b ∈ bounds, position < b) :
    Past position inside bounds inside bounds

namespace Past

variable {position : Nat} {inside next : Bool} {bounds rest : List Nat}
  (h : Past position inside bounds next rest)
include h

/-- The boundaries that are left are behind the position. -/
theorem lt_of_mem {b : Nat} (hb : b ∈ rest) : position < b := by
  cases h with
  | crossed h => exact h b hb
  | kept h => exact h b hb

/-- The boundaries that are left were there before. -/
theorem mem_of_mem {b : Nat} (hb : b ∈ rest) : b ∈ bounds := by
  cases h with
  | crossed h => exact List.mem_cons_of_mem _ hb
  | kept h => exact hb

/-- Membership is the old one up to the position, and from there on that of what is left. -/
theorem insideAt_eq (n : Nat) :
    insideAt n inside bounds = if n < position then inside else insideAt n next rest := by
  cases h with
  | crossed h => rfl
  | kept h =>
    split
    · rename_i hn
      exact insideAt_of_lt fun b hb => Nat.lt_trans hn (h b hb)
    · rfl

end Past

/-! ### Merging boundaries -/

/-- What merged boundaries say about those they are merged from: they are ascending, none is new,
and membership is the operation on the two memberships. -/
structure Merged (op : Bool → Bool → Bool) (inLeft inRight : Bool) (left right merged : List Nat) :
    Prop where
  /-- Each boundary is smaller than those behind it. -/
  ascending : merged.Pairwise (· < ·)
  /-- Each boundary is one of the two lists'. -/
  mem_or_mem : ∀ b ∈ merged, b ∈ left ∨ b ∈ right
  /-- Membership from the combined start is the combined membership. -/
  insideAt_eq : ∀ n, insideAt n (op inLeft inRight) merged =
    op (insideAt n inLeft left) (insideAt n inRight right)

/-- Without boundaries there is nothing to merge. -/
theorem merged_nil (op : Bool → Bool → Bool) (inLeft inRight : Bool) :
    Merged op inLeft inRight [] [] [] :=
  ⟨.nil, fun _ hb => (by cases hb), fun _ => rfl⟩

/-- One step of a merge: past a position, the boundaries left are merged, and the position is put
in front of them when the combined membership changes there. -/
theorem Merged.step {op : Bool → Bool → Bool} {position : Nat} {inLeft inRight : Bool}
    {left right : List Nat} {nextLeft nextRight : Bool} {leftRest rightRest rest : List Nat}
    (hleft : Past position inLeft left nextLeft leftRest)
    (hright : Past position inRight right nextRight rightRest)
    (hposition : position ∈ left ∨ position ∈ right)
    (hrest : Merged op nextLeft nextRight leftRest rightRest rest) :
    Merged op inLeft inRight left right
      (if op nextLeft nextRight == op inLeft inRight then rest else position :: rest) := by
  have hbehind : ∀ b ∈ rest, position < b := fun b hb =>
    (hrest.mem_or_mem b hb).elim hleft.lt_of_mem hright.lt_of_mem
  have hmem : ∀ b ∈ rest, b ∈ left ∨ b ∈ right := fun b hb =>
    (hrest.mem_or_mem b hb).imp hleft.mem_of_mem hright.mem_of_mem
  have hsplit (n : Nat) : op (insideAt n inLeft left) (insideAt n inRight right) =
      if n < position then op inLeft inRight else insideAt n (op nextLeft nextRight) rest := by
    rw [hleft.insideAt_eq, hright.insideAt_eq, hrest.insideAt_eq]
    split <;> rfl
  split
  · -- The membership does not change, so the position is no boundary of the combination.
    rename_i hsame
    have hsame : op nextLeft nextRight = op inLeft inRight := by simpa using hsame
    refine ⟨hrest.ascending, hmem, fun n => ?_⟩
    rw [hsplit, hsame]
    split
    · rename_i hn
      exact insideAt_of_lt fun b hb => Nat.lt_trans hn (hbehind b hb)
    · rfl
  · rename_i hchange
    have hchange : op nextLeft nextRight = !op inLeft inRight :=
      Bool.eq_not.2 fun hsame => hchange (beq_iff_eq.2 hsame)
    refine ⟨List.pairwise_cons.2 ⟨hbehind, hrest.ascending⟩, ?_, fun n => ?_⟩
    · exact List.forall_mem_cons.2 ⟨hposition, hmem⟩
    · rw [hsplit, insideAt, hchange]

/-- Ascending boundaries are merged into ascending ones for the combined membership. -/
theorem merged_mergeBounds (op : Bool → Bool → Bool) {fuel : Nat} (inLeft inRight : Bool)
    {left right : List Nat} (hfuel : left.length + right.length ≤ fuel)
    (hleft : left.Pairwise (· < ·)) (hright : right.Pairwise (· < ·)) :
    Merged op inLeft inRight left right
      (mergeBounds op fuel inLeft inRight (op inLeft inRight) left right) := by
  induction fuel generalizing inLeft inRight left right with
  | zero =>
    obtain rfl : left = [] := List.length_eq_zero_iff.1 (by omega)
    obtain rfl : right = [] := List.length_eq_zero_iff.1 (by omega)
    exact merged_nil op inLeft inRight
  | succ fuel ih =>
    cases left with
    | nil =>
      cases right with
      | nil => exact merged_nil op inLeft inRight
      | cons b right =>
        obtain ⟨hb, hright⟩ := List.pairwise_cons.1 hright
        exact .step (.kept (by simp)) (.crossed hb) (.inr List.mem_cons_self)
          (ih _ _ (by simpa using hfuel) hleft hright)
    | cons a left =>
      obtain ⟨ha, hleft'⟩ := List.pairwise_cons.1 hleft
      cases right with
      | nil =>
        exact .step (.crossed ha) (.kept (by simp)) (.inl List.mem_cons_self)
          (ih _ _ (by simpa using hfuel) hleft' hright)
      | cons b right =>
        obtain ⟨hb, hright'⟩ := List.pairwise_cons.1 hright
        simp only [List.length_cons] at hfuel
        rw [mergeBounds.eq_def]
        obtain hab | rfl | hba := Nat.lt_trichotomy a b
        · have hlater : ∀ d ∈ b :: right, a < d :=
            List.forall_mem_cons.2 ⟨hab, fun d hd => Nat.lt_trans hab (hb d hd)⟩
          simp only [if_pos hab]
          exact .step (.crossed ha) (.kept hlater) (.inl List.mem_cons_self)
            (ih _ _ (by simp only [List.length_cons]; omega) hleft' hright)
        · simp only [Nat.lt_irrefl, if_false]
          exact .step (.crossed ha) (.crossed hb) (.inl List.mem_cons_self)
            (ih _ _ (by omega) hleft' hright')
        · have hlater : ∀ d ∈ a :: left, b < d :=
            List.forall_mem_cons.2 ⟨hba, fun d hd => Nat.lt_trans hba (ha d hd)⟩
          simp only [if_neg (Nat.lt_asymm hba), if_pos hba]
          exact .step (.kept hlater) (.crossed hb) (.inr List.mem_cons_self)
            (ih _ _ (by simp only [List.length_cons]; omega) hleft hright')

/-! ### Sets with ascending boundaries -/

/-- Whether the boundaries of a set are in ascending order. -/
def Ascending (set : CharSet) : Prop := set.bounds.Pairwise (· < ·)

section Combined

variable {left right : CharSet} (hleft : left.Ascending) (hright : right.Ascending)
include hleft hright

/-- A combination is the merge of the boundaries. -/
theorem merged_combine {op : Bool → Bool → Bool} (hop : op false false = false) :
    Merged op false false left.bounds right.bounds (combine op left right).bounds := by
  have hmerged := merged_mergeBounds op false false (Nat.le_succ _) hleft hright
  rwa [hop] at hmerged

/-- A combination has ascending boundaries. -/
theorem ascending_combine {op : Bool → Bool → Bool} (hop : op false false = false) :
    (combine op left right).Ascending :=
  (merged_combine hleft hright hop).ascending

/-- A code point is in a combination when the operation on the two memberships says so. -/
theorem hasPoint_combine {op : Bool → Bool → Bool} (hop : op false false = false) (n : Nat) :
    (combine op left right).hasPoint n = op (left.hasPoint n) (right.hasPoint n) := by
  have hinside := (merged_combine hleft hright hop).insideAt_eq n
  rwa [hop] at hinside

end Combined

/-- A code point is in a range from its first one to its last one. -/
theorem hasPoint_range (first last n : Nat) :
    (range first last).hasPoint n = true ↔ first ≤ n ∧ n ≤ last := by
  simp only [hasPoint, range, insideAt]
  split
  · simp only [Bool.false_eq_true, false_iff]
    omega
  · split <;> simp only [Bool.not_false, Bool.not_true, Bool.false_eq_true, true_iff, false_iff]
    · omega
    · omega

/-- A range has ascending boundaries. -/
theorem ascending_range {first last : Nat} (h : first ≤ last) : (range first last).Ascending :=
  List.pairwise_pair.2 (Nat.lt_succ_of_le h)

/-- Putting code points into a set one after another keeps the boundaries ascending and adds
exactly these points. -/
theorem foldl_union_points (points : List Nat) {set : CharSet} (hset : set.Ascending) :
    (points.foldl (fun set point => set.union (range point point)) set).Ascending ∧
      ∀ n, (points.foldl (fun set point => set.union (range point point)) set).hasPoint n = true ↔
        set.hasPoint n = true ∨ n ∈ points := by
  induction points generalizing set with
  | nil => exact ⟨hset, fun n => by simp⟩
  | cons point points ih =>
    have hpoint : (range point point).Ascending := ascending_range (Nat.le_refl point)
    have hunion : (set.union (range point point)).Ascending := ascending_combine hset hpoint rfl
    refine ⟨(ih hunion).1, fun n => ((ih hunion).2 n).trans ?_⟩
    have hn : (set.union (range point point)).hasPoint n = true ↔
        set.hasPoint n = true ∨ n = point := by
      rw [union, hasPoint_combine hset hpoint rfl, Bool.or_eq_true, hasPoint_range]
      exact or_congr_right (by omega)
    rw [hn, or_assoc, List.mem_cons]

/-- A set of code points holds exactly these. -/
theorem hasPoint_ofPoints (points : List Nat) (n : Nat) :
    (ofPoints points).hasPoint n = true ↔ n ∈ points := by
  have hempty : empty.hasPoint n = false := rfl
  have hascending : empty.Ascending := .nil
  have hpoints := (foldl_union_points points hascending).2 n
  rwa [hempty, Bool.false_eq_true, false_or] at hpoints

/-- A character stands for exactly its case variants. -/
theorem contains_variantsOf (c d : Char) :
    (variantsOf c).contains d = true ↔ d.toNat ∈ Unicode.caseVariants c.toNat :=
  hasPoint_ofPoints _ d.toNat

end ScopeQuery.CharSet
