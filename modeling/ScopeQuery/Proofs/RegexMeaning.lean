import ScopeQuery.Regex.Search

/-!
# What expressions match

Which stretches of a text an expression matches, said of the positions where they start and
end. Running the expression on marks takes each mark to the ends of the matches that start
there. The repetitions are the one point where this is not plain from the definitions: marks
are gathered until a step adds none, and as every earlier step adds one, as many steps as there
are positions are enough.
-/

namespace ScopeQuery

/-- As many steps of a relation, one after another. -/
def Steps (R : Nat → Nat → Prop) : Nat → Nat → Nat → Prop
  | 0, i, j => i = j
  | n + 1, i, j => ∃ k, R i k ∧ Steps R n k j

/-- Steps one after another are as many as both together. -/
theorem steps_add (R : Nat → Nat → Prop) (m n i j : Nat) :
    Steps R (m + n) i j ↔ ∃ k, Steps R m i k ∧ Steps R n k j := by
  induction m generalizing i with
  | zero => simp [Steps]
  | succ m ih =>
    rw [Nat.succ_add]
    simp only [Steps, ih]
    constructor
    · rintro ⟨first, hfirst, k, hk, hj⟩
      exact ⟨k, ⟨first, hfirst, hk⟩, hj⟩
    · rintro ⟨k, ⟨first, hfirst, hk⟩, hj⟩
      exact ⟨first, hfirst, k, hk, hj⟩

/-- A position of a text, by the characters around it. -/
def spotAt (text : List Char) (i : Nat) : Spot := ⟨if i = 0 then none else text[i - 1]?, text[i]?⟩

namespace Regex

/-- Whether the stretch of a text between two positions matches. -/
def Matches (text : List Char) : Regex → Nat → Nat → Prop
  | .empty, i, j => i = j
  | .chars set, i, j => j = i + 1 ∧ ∃ c, text[i]? = some c ∧ set.contains c = true
  | .look condition, i, j => i = j ∧ i ≤ text.length ∧ condition.holds (spotAt text i) = true
  | .seq first second, i, j => ∃ k, first.Matches text i k ∧ second.Matches text k j
  | .alt left right, i, j => left.Matches text i j ∨ right.Matches text i j
  | .repeated body least most, i, j =>
    ∃ n, least ≤ n ∧ (∀ bound, most = some bound → n ≤ least + (bound - least)) ∧
      Steps (body.Matches text) n i j
  | .captured body, i, j => body.Matches text i j

end Regex

/-! ### Positions -/

namespace Spot

/-- The positions of a text with a character before them. -/
theorem getElem?_listFrom (before : Option Char) (text : List Char) (i : Nat) :
    (listFrom before text)[i]? =
      if i ≤ text.length then some ⟨if i = 0 then before else text[i - 1]?, text[i]?⟩
      else none := by
  induction text generalizing before i with
  | nil => cases i <;> simp [listFrom]
  | cons c rest ih =>
    cases i with
    | zero => simp [listFrom]
    | succ i =>
      rw [listFrom, List.getElem?_cons_succ, ih]
      cases i <;> simp

/-- The positions of a text are those from its start to its end. -/
theorem getElem?_list {text : List Char} {i : Nat} {spot : Spot} :
    (list text)[i]? = some spot ↔ i ≤ text.length ∧ spot = spotAt text i := by
  rw [list, getElem?_listFrom]
  split
  · rename_i hi
    rw [Option.some.injEq, spotAt]
    exact ⟨fun h => ⟨hi, h.symm⟩, fun h => h.2.symm⟩
  · rename_i hi
    exact ⟨fun h => (by cases h), fun h => absurd h.1 hi⟩

end Spot

/-! ### Marks -/

namespace Marks

/-- Whether a position is marked. -/
def At (marks : Marks) (i : Nat) : Prop := marks[i]? = some true

/-- A marked position is one of the text. -/
theorem At.lt {marks : Marks} {i : Nat} (h : marks.At i) : i < marks.length :=
  (List.getElem?_eq_some_iff.1 h).1

/-- A step on marks of as many positions that takes each mark to the positions related to it. -/
structure Follows (size : Nat) (R : Nat → Nat → Prop) (step : Marks → Marks) : Prop where
  /-- The positions stay. -/
  length : ∀ marks, marks.length = size → (step marks).length = size
  /-- What is marked is related to what was. -/
  at_iff : ∀ marks, marks.length = size → ∀ j, (step marks).At j ↔ ∃ i, marks.At i ∧ R i j

/-- A position is marked in one of two marks or in both. -/
theorem at_union {left right : Marks} (h : left.length = right.length) (j : Nat) :
    (union left right).At j ↔ left.At j ∨ right.At j := by
  induction left generalizing right j with
  | nil => cases right <;> simp_all [union, At]
  | cons a left ih =>
    cases right with
    | nil => cases h
    | cons b right =>
      cases j with
      | zero => simp [union, At]
      | succ j => exact ih (Nat.succ.inj h) j

/-- Both marks have as many positions. -/
theorem length_union {left right : Marks} (h : left.length = right.length) :
    (union left right).length = left.length := by
  simp [union, h]

/-- Adding marks leaves fewer positions without one, unless it changes nothing. -/
theorem union_eq_or_count_lt (left right : Marks) (h : left.length = right.length) :
    union left right = left ∨ (union left right).count false < left.count false := by
  induction left generalizing right with
  | nil => cases right <;> simp_all [union]
  | cons a left ih =>
    cases right with
    | nil => cases h
    | cons b right =>
      have hle : (union left right).count false ≤ left.count false := by
        obtain heq | hlt := ih right (Nat.succ.inj h)
        · exact Nat.le_of_eq (congrArg _ heq)
        · exact Nat.le_of_lt hlt
      have hrest := ih right (Nat.succ.inj h)
      change (a || b) :: union left right = a :: left ∨
        ((a || b) :: union left right).count false < (a :: left).count false
      cases a <;> cases b <;> simp <;> omega

/-- The marks that stay are those at positions that meet the condition. -/
theorem at_filter (holds : Spot → Bool) (spots : List Spot) (marks : Marks) (j : Nat) :
    (filter holds spots marks).At j ↔
      marks.At j ∧ ∃ spot, spots[j]? = some spot ∧ holds spot = true := by
  rw [At, filter, List.getElem?_zipWith, At]
  cases hspot : spots[j]? with
  | none => simp
  | some spot => cases hmark : marks[j]? <;> simp

/-- A mark is moved from the position before a character of the set to the one after it. -/
theorem at_shift (set : CharSet) (carried : Bool) (spots : List Spot) (marks : Marks)
    (h : marks.length = spots.length) (j : Nat) :
    (shift set carried spots marks).At j ↔
      (j = 0 ∧ carried = true ∧ 0 < spots.length) ∨
        ∃ i, j = i + 1 ∧ j < spots.length ∧ marks.At i ∧
          ∃ spot, spots[i]? = some spot ∧ spot.after.any set.contains = true := by
  induction spots generalizing carried marks j with
  | nil => simp [shift, At]
  | cons spot spots ih =>
    cases marks with
    | nil => cases h
    | cons mark marks =>
      cases j with
      | zero => simp [shift, At]
      | succ j =>
        change (shift set (mark && spot.after.any set.contains) spots marks).At j ↔ _
        rw [ih _ _ (Nat.succ.inj h)]
        cases j with
        | zero => simp [At, and_left_comm, and_comm]
        | succ j => simp [At]

/-- Moving marks keeps the positions. -/
theorem length_shift (set : CharSet) (carried : Bool) (spots : List Spot) (marks : Marks)
    (h : marks.length = spots.length) : (shift set carried spots marks).length = spots.length := by
  induction spots generalizing carried marks with
  | nil => rfl
  | cons spot spots ih =>
    cases marks with
    | nil => cases h
    | cons mark marks => exact congrArg Nat.succ (ih _ _ (Nat.succ.inj h))

section Composing

variable {size : Nat} {R S : Nat → Nat → Prop} {step next : Marks → Marks}

/-- Only what is related counts. -/
theorem Follows.congr (h : Follows size R step) (hsame : ∀ i j, R i j ↔ S i j) :
    Follows size S step := by
  refine ⟨h.length, fun marks hmarks j => ?_⟩
  simp only [h.at_iff marks hmarks, hsame]

/-- One step after another takes a mark over a position between. -/
theorem Follows.comp (h : Follows size R step) (hnext : Follows size S next) :
    Follows size (fun i j => ∃ k, R i k ∧ S k j) (fun marks => next (step marks)) := by
  refine ⟨fun marks hmarks => hnext.length _ (h.length marks hmarks), fun marks hmarks j => ?_⟩
  rw [hnext.at_iff _ (h.length marks hmarks)]
  simp only [h.at_iff marks hmarks]
  constructor
  · rintro ⟨k, ⟨i, hi, hik⟩, hkj⟩
    exact ⟨i, hi, k, hik, hkj⟩
  · rintro ⟨i, hi, k, hik, hkj⟩
    exact ⟨k, ⟨i, hi, hik⟩, hkj⟩

/-- The marks of two steps are those of either. -/
theorem Follows.either (h : Follows size R step) (hnext : Follows size S next) :
    Follows size (fun i j => R i j ∨ S i j) (fun marks => union (step marks) (next marks)) := by
  have hlength (marks : Marks) (hmarks : marks.length = size) :
      (step marks).length = (next marks).length :=
    (h.length marks hmarks).trans (hnext.length marks hmarks).symm
  refine ⟨fun marks hmarks => ?_, fun marks hmarks j => ?_⟩
  · exact (length_union (hlength marks hmarks)).trans (h.length marks hmarks)
  · rw [at_union (hlength marks hmarks), h.at_iff marks hmarks, hnext.at_iff marks hmarks]
    simp only [and_or_left, exists_or]

end Composing

section Following

variable {size : Nat} {R : Nat → Nat → Prop} {step : Marks → Marks} (h : Follows size R step)
include h

/-- Steps from what is marked are one step fewer from what a step marks. -/
theorem Follows.exists_steps_succ {marks : Marks} (hmarks : marks.length = size) (n j : Nat) :
    (∃ i, marks.At i ∧ Steps R (n + 1) i j) ↔ ∃ k, (step marks).At k ∧ Steps R n k j := by
  simp only [h.at_iff marks hmarks, Steps]
  constructor
  · rintro ⟨i, hi, k, hik, hkj⟩
    exact ⟨k, ⟨i, hi, hik⟩, hkj⟩
  · rintro ⟨k, ⟨i, hi, hik⟩, hkj⟩
    exact ⟨i, hi, k, hik, hkj⟩

/-- Where a step changes nothing, no number of steps does. -/
theorem Follows.exists_steps_of_fixed {marks : Marks} (hmarks : marks.length = size)
    (hfixed : step marks = marks) (n j : Nat) :
    (∃ i, marks.At i ∧ Steps R n i j) ↔ marks.At j := by
  induction n with
  | zero => simp [Steps]
  | succ n ih => rw [h.exists_steps_succ hmarks, hfixed, ih]

/-- Iterating a step takes as many steps. -/
theorem follows_iterate (n : Nat) : Follows size (Steps R n) (iterate step n) := by
  induction n with
  | zero => exact ⟨fun marks hmarks => hmarks, fun marks hmarks j => by simp [iterate, Steps]⟩
  | succ n ih =>
    refine ⟨fun marks hmarks => ?_, fun marks hmarks j => ?_⟩
    · rw [iterate]
      split
      · exact hmarks
      · exact ih.length _ (h.length marks hmarks)
    · rw [iterate]
      split
      · rename_i hfixed
        exact (h.exists_steps_of_fixed hmarks (eq_of_beq hfixed) (n + 1) j).symm
      · rw [ih.at_iff _ (h.length marks hmarks), h.exists_steps_succ hmarks]

/-- What is marked after a step is added is marked or one step from what is. -/
theorem Follows.at_added {marks : Marks} (hmarks : marks.length = size) (j : Nat) :
    (union marks (step marks)).At j ↔ marks.At j ∨ ∃ i, marks.At i ∧ R i j := by
  rw [at_union (hmarks.trans (h.length marks hmarks).symm), h.at_iff marks hmarks]

/-- Adding a step keeps the positions. -/
theorem Follows.length_added {marks : Marks} (hmarks : marks.length = size) :
    (union marks (step marks)).length = size :=
  (length_union (hmarks.trans (h.length marks hmarks).symm)).trans hmarks

omit h in
/-- Steps from what is marked stay in it when one step does. -/
theorem at_of_steps {marks : Marks} (hclosed : ∀ i j, marks.At i → R i j → marks.At j) {n i j : Nat}
    (hi : marks.At i) (hsteps : Steps R n i j) : marks.At j := by
  induction n generalizing i with
  | zero => exact hsteps ▸ hi
  | succ n ih =>
    obtain ⟨k, hik, hkj⟩ := hsteps
    exact ih (hclosed i k hi hik) hkj

/-- Gathering a number of steps takes up to as many. -/
theorem follows_gather (n : Nat) :
    Follows size (fun i j => ∃ m ≤ n, Steps R m i j) (gather step n) := by
  induction n with
  | zero =>
    refine ⟨fun marks hmarks => hmarks, fun marks hmarks j => ?_⟩
    simp [gather, Steps]
  | succ n ih =>
    refine ⟨fun marks hmarks => ?_, fun marks hmarks j => ?_⟩
    · rw [gather]
      split
      · exact hmarks
      · exact ih.length _ (h.length_added hmarks)
    · rw [gather]
      split
      · rename_i hfixed
        -- Every step from the marks stays in them.
        have hclosed (i k : Nat) (hi : marks.At i) (hik : R i k) : marks.At k := by
          rw [← eq_of_beq hfixed]
          exact (h.at_added hmarks k).2 (.inr ⟨i, hi, hik⟩)
        constructor
        · exact fun hj => ⟨j, hj, 0, Nat.zero_le _, rfl⟩
        · rintro ⟨i, hi, m, -, hsteps⟩
          exact at_of_steps hclosed hi hsteps
      · rw [ih.at_iff _ (h.length_added hmarks)]
        constructor
        · rintro ⟨k, hk, m, hm, hsteps⟩
          obtain hk | ⟨i, hi, hik⟩ := (h.at_added hmarks k).1 hk
          · exact ⟨k, hk, m, Nat.le_succ_of_le hm, hsteps⟩
          · exact ⟨i, hi, m + 1, Nat.succ_le_succ hm, k, hik, hsteps⟩
        · rintro ⟨i, hi, m, hm, hsteps⟩
          cases m with
          | zero => exact ⟨i, (h.at_added hmarks i).2 (.inl hi), 0, Nat.zero_le _, hsteps⟩
          | succ m =>
            obtain ⟨k, hik, hkj⟩ := hsteps
            exact ⟨k, (h.at_added hmarks k).2 (.inr ⟨i, hi, hik⟩), m, Nat.le_of_succ_le_succ hm,
              hkj⟩

/-- A step from gathered marks stays in them when there were as many steps as positions without
a mark. -/
theorem Follows.gather_closed {n : Nat} {marks : Marks} (hmarks : marks.length = size)
    (hcount : marks.count false ≤ n) :
    ∀ i j, (gather step n marks).At i → R i j → (gather step n marks).At j := by
  induction n generalizing marks with
  | zero =>
    intro i j hi hij
    have hj : j < marks.length := by
      have hstep := (h.at_iff marks hmarks j).2 ⟨i, hi, hij⟩
      exact hmarks ▸ h.length marks hmarks ▸ hstep.lt
    have hall : false ∉ marks := List.count_eq_zero.1 (Nat.le_zero.1 hcount)
    have hmem : marks[j] ∈ marks := List.getElem_mem hj
    rw [gather, At, List.getElem?_eq_getElem hj, Option.some.injEq]
    cases hmark : marks[j] with
    | true => rfl
    | false => exact absurd (hmark ▸ hmem) hall
  | succ n ih =>
    rw [gather]
    split
    · rename_i hfixed
      intro i j hi hij
      rw [← eq_of_beq hfixed]
      exact (h.at_added hmarks j).2 (.inr ⟨i, hi, hij⟩)
    · rename_i hchanged
      refine ih (h.length_added hmarks) ?_
      obtain hsame | hless := union_eq_or_count_lt marks (step marks)
        (hmarks.trans (h.length marks hmarks).symm)
      · exact absurd (beq_iff_eq.2 hsame) hchanged
      · omega

/-- Gathering as many steps as there are positions takes any number of steps. -/
theorem follows_gather_all :
    Follows size (fun i j => ∃ m, Steps R m i j) (gather step size) := by
  have hbounded := follows_gather h size
  refine ⟨hbounded.length, fun marks hmarks j => ?_⟩
  have hcount : marks.count false ≤ size := hmarks ▸ List.count_le_length
  constructor
  · intro hj
    obtain ⟨i, hi, m, -, hsteps⟩ := (hbounded.at_iff marks hmarks j).1 hj
    exact ⟨i, hi, m, hsteps⟩
  · rintro ⟨i, hi, m, hsteps⟩
    have hstart : (gather step size marks).At i :=
      (hbounded.at_iff marks hmarks i).2 ⟨i, hi, 0, Nat.zero_le _, rfl⟩
    exact at_of_steps (h.gather_closed hmarks hcount) hstart hsteps

end Following

end Marks

/-! ### Expressions -/

namespace Regex

/-- Running an expression on marks takes each mark to the ends of the matches that start there. -/
theorem follows_ends (text : List Char) (regex : Regex) :
    Marks.Follows (text.length + 1) (regex.Matches text) (regex.ends (Spot.list text)) := by
  have hspots : (Spot.list text).length = text.length + 1 := Spot.length_list text
  induction regex with
  | empty => exact ⟨fun marks hmarks => hmarks, fun marks hmarks j => by simp [ends, Matches]⟩
  | chars set =>
    refine ⟨fun marks hmarks => ?_, fun marks hmarks j => ?_⟩
    · rw [ends, Marks.length_shift _ _ _ _ (hmarks.trans hspots.symm), hspots]
    · rw [ends, Marks.at_shift _ _ _ _ (hmarks.trans hspots.symm)]
      simp only [Spot.getElem?_list, Matches, hspots]
      constructor
      · rintro (⟨-, hcarried, -⟩ | ⟨i, rfl, -, hi, spot, ⟨-, rfl⟩, hset⟩)
        · cases hcarried
        · obtain ⟨c, hc, hset⟩ := (Option.any_eq_true ..).1 hset
          exact ⟨i, hi, rfl, c, hc, hset⟩
      · rintro ⟨i, hi, rfl, c, hc, hset⟩
        obtain ⟨hlength, -⟩ := List.getElem?_eq_some_iff.1 hc
        refine .inr ⟨i, rfl, Nat.succ_lt_succ hlength, hi, _, ⟨Nat.le_of_lt hlength, rfl⟩, ?_⟩
        exact (Option.any_eq_true ..).2 ⟨c, hc, hset⟩
  | look condition =>
    refine ⟨fun marks hmarks => ?_, fun marks hmarks j => ?_⟩
    · rw [ends, Marks.filter, List.length_zipWith, hspots, hmarks, Nat.min_self]
    · rw [ends, Marks.at_filter]
      simp only [Spot.getElem?_list, Matches]
      constructor
      · rintro ⟨hj, spot, ⟨hlength, rfl⟩, hholds⟩
        exact ⟨j, hj, rfl, hlength, hholds⟩
      · rintro ⟨i, hi, rfl, hlength, hholds⟩
        exact ⟨hi, _, ⟨hlength, rfl⟩, hholds⟩
  | seq first second ihFirst ihSecond => exact ihFirst.comp ihSecond
  | alt left right ihLeft ihRight => exact ihLeft.either ihRight
  | repeated body least most ih =>
    have hstarted := Marks.follows_iterate ih least
    cases most with
    | none =>
      have hfurther : Marks.Follows (text.length + 1)
          (fun k j => ∃ further, Steps (body.Matches text) further k j)
          (Marks.gather (body.ends (Spot.list text)) (Spot.list text).length) := by
        rw [hspots]
        exact Marks.follows_gather_all ih
      refine (hstarted.comp hfurther).congr fun i j => ?_
      constructor
      · rintro ⟨k, hik, further, hkj⟩
        refine ⟨least + further, Nat.le_add_right .., fun _ hbound => (by cases hbound), ?_⟩
        exact (steps_add ..).2 ⟨k, hik, hkj⟩
      · rintro ⟨n, hleast, -, hsteps⟩
        obtain ⟨further, rfl⟩ := Nat.exists_eq_add_of_le hleast
        obtain ⟨k, hik, hkj⟩ := (steps_add ..).1 hsteps
        exact ⟨k, hik, further, hkj⟩
    | some most =>
      have hfurther := Marks.follows_gather ih (most - least)
      refine (hstarted.comp hfurther).congr fun i j => ?_
      constructor
      · rintro ⟨k, hik, further, hbound, hkj⟩
        refine ⟨least + further, Nat.le_add_right .., fun bound hmost => ?_, ?_⟩
        · cases hmost
          exact Nat.add_le_add_left hbound least
        · exact (steps_add ..).2 ⟨k, hik, hkj⟩
      · rintro ⟨n, hleast, hbound, hsteps⟩
        obtain ⟨further, rfl⟩ := Nat.exists_eq_add_of_le hleast
        obtain ⟨k, hik, hkj⟩ := (steps_add ..).1 hsteps
        exact ⟨k, hik, further, Nat.le_of_add_le_add_left (hbound most rfl), hkj⟩
  | captured body ih => exact ih

/-- An expression occurs in a text when a stretch of it matches. -/
theorem occursIn_iff (regex : Regex) (text : List Char) :
    regex.occursIn text = true ↔ ∃ i j, i ≤ text.length ∧ regex.Matches text i j := by
  -- A search marks every position of the text.
  have hall (i : Nat) :
      Marks.At ((Spot.list text).map fun _ => true) i ↔ i ≤ text.length := by
    rw [Marks.At, List.getElem?_map, Option.map_eq_some_iff]
    simp [Spot.getElem?_list]
  have hlength : ((Spot.list text).map fun _ => true).length = text.length + 1 := by
    rw [List.length_map, Spot.length_list]
  rw [occursIn, List.contains_iff_mem, List.mem_iff_getElem?]
  constructor
  · rintro ⟨j, hj⟩
    obtain ⟨i, hi, hmatches⟩ := ((follows_ends text regex).at_iff _ hlength j).1 hj
    exact ⟨i, j, (hall i).1 hi, hmatches⟩
  · rintro ⟨i, j, hi, hmatches⟩
    exact ⟨j, ((follows_ends text regex).at_iff _ hlength j).2 ⟨i, (hall i).2 hi, hmatches⟩⟩

end Regex

end ScopeQuery
