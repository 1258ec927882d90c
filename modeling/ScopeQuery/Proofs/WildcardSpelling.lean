import ScopeQuery.Matching.Wildcard
import ScopeQuery.Regex.Pattern

/-!
# The spelling of wildcard patterns

The regular expression of a wildcard pattern in the notation of expressions, and that reading
it gives that expression. The pieces are spelled one after another between the two anchors, so
each is read on its own: what is left to read never goes on with the piece before it.
-/

namespace ScopeQuery

namespace Regex

/-- Whether a character can mean something else than itself in a pattern. -/
def isSpecial (c : Char) : Bool :=
  ['\\', '.', '+', '*', '?', '(', ')', '|', '[', ']', '\x7b', '\x7d', '^', '$', '#', '&', '-',
    '~'].contains c

/-- The spelling of a character that stands for itself. -/
def literalText (c : Char) : List Char := if isSpecial c then ['\\', c] else [c]

end Regex

namespace Wildcard

/-- The spelling of a piece. -/
def spelling : Wildcard → List Char
  | .anySequence => ['.', '*']
  | .anyOne => ['.']
  | .exactly c => Regex.literalText c

/-- The spelling of a whole pattern. Its dots stand for line feeds too. -/
def wholeSpelling (anyCase : Bool) (pieces : List Wildcard) : List Char :=
  (if anyCase then "(?is)" else "(?s)").toList ++ '^' :: (pieces.flatMap spelling ++ ['$'])

end Wildcard

namespace Regex

/-! ### Reading one piece after another -/

namespace PatternDraft

/-- At the end of a pattern nothing is left to read. -/
theorem read?_nil {draft : PatternDraft} (hspaced : draft.flags.spaced = false) :
    draft.read? [] = some draft := by
  have hskip : draft.flags.skip [] = [] := by simp [Flags.skip, hspaced]
  rw [read?]
  split
  · rfl
  · rename_i hrest
    rw [hskip] at hrest
    cases hrest

/-- A pattern is read from its first piece on. -/
theorem read?_of_step {draft next : PatternDraft} {c : Char} {rest after : List Char}
    (hspaced : draft.flags.spaced = false) (hstep : draft.step? (c :: rest) = some (next, after))
    (hshorter : after.length ≤ rest.length) : draft.read? (c :: rest) = next.read? after := by
  have hskip : draft.flags.skip (c :: rest) = c :: rest := by simp [Flags.skip, hspaced]
  rw [read?]
  split
  · rename_i hrest
    rw [hskip] at hrest
    cases hrest
  · rename_i hrest
    rw [hskip] at hrest
    cases hrest
    rw [hstep]
    exact if_pos (Nat.lt_succ_of_le hshorter)

end PatternDraft

/-- A special character is itself after a backslash. -/
theorem readEscape?_of_isSpecial (flags : Flags) {c : Char} (h : isSpecial c = true)
    (rest : List Char) : readEscape? flags (c :: rest) = some (.literal c false, rest) := by
  rw [isSpecial, List.contains_iff_mem] at h
  revert c
  simp only [List.forall_mem_cons]
  and_intros
  all_goals first | rfl | exact fun c h => (by cases h)

/-- The spelling of a character is read as that character in one step. -/
theorem step?_literalText (draft : PatternDraft) (c : Char) (rest : List Char) :
    ∃ first more, literalText c ++ rest = first :: more ∧ rest.length ≤ more.length ∧
      draft.step? (first :: more) =
        (literalRegex? draft.flags c false).map fun regex => (draft.push ⟨regex, 0⟩, rest) := by
  by_cases hspecial : isSpecial c = true
  · refine ⟨'\\', c :: rest, by simp [literalText, hspecial], Nat.le_succ _, ?_⟩
    rw [PatternDraft.step?, readEscape?_of_isSpecial _ hspecial]
    rfl
  · refine ⟨c, rest, by simp [literalText, hspecial], Nat.le_refl _, ?_⟩
    have hother := hspecial
    simp only [isSpecial, List.contains_iff_mem, List.mem_cons, List.not_mem_nil, or_false,
      not_or] at hother
    rw [PatternDraft.step?.eq_def]
    split <;> simp_all

end Regex

namespace Wildcard

open Regex

/-- The flags under which the pieces are read. -/
def pieceFlags (anyCase : Bool) : Flags := { anyCase, dotAll := true }

/-- The expression that a piece is read as. A repetition is a level of its own. -/
def nested (anyCase : Bool) (piece : Wildcard) : Nested Regex :=
  ⟨piece.regex anyCase, if piece = .anySequence then 1 else 0⟩

/-- The draft with some items of the outermost branch read, the last one first. -/
def draftOf (anyCase : Bool) (items : List BranchItem) : PatternDraft :=
  ⟨pieceFlags anyCase, [], { items, after := {}, captures := false }, []⟩

/-- The character of a piece is read as the set it stands for. -/
theorem literalRegex?_pieceFlags (anyCase : Bool) (c : Char) :
    literalRegex? (pieceFlags anyCase) c false = some (.chars (charSet anyCase c)) := by
  cases anyCase <;> rfl

/-- What is left after a piece does not make its repetition lazy. -/
theorem pastLazy_spelling (pieces : List Wildcard) :
    pastLazy (pieces.flatMap spelling ++ ['$']) = pieces.flatMap spelling ++ ['$'] := by
  cases pieces with
  | nil => rfl
  | cons piece pieces =>
    cases piece with
    | anySequence => rfl
    | anyOne => rfl
    | exactly c =>
      rw [List.flatMap_cons, List.append_assoc, spelling, literalText]
      split
      · rfl
      · rename_i hspecial
        rw [List.singleton_append, pastLazy]
        rintro rest hrest
        cases hrest
        exact hspecial rfl

/-- A piece is read as its expression. -/
theorem read?_spelling (anyCase : Bool) (items : List BranchItem) (piece : Wildcard)
    {rest : List Char} (hlazy : pastLazy rest = rest) :
    (draftOf anyCase items).read? (piece.spelling ++ rest) =
      (draftOf anyCase (.expression (piece.nested anyCase) :: items)).read? rest := by
  cases piece with
  | anySequence =>
    have hdot : (draftOf anyCase items).step? ('.' :: '*' :: rest) =
        some (draftOf anyCase (.expression (nested anyCase .anyOne) :: items), '*' :: rest) := rfl
    have hstar : (draftOf anyCase (.expression (nested anyCase .anyOne) :: items)).step?
          ('*' :: rest) =
        some (draftOf anyCase (.expression (nested anyCase .anySequence) :: items), rest) := by
      rw [PatternDraft.step?, hlazy]
      rfl
    rw [spelling, List.cons_append, List.singleton_append,
      PatternDraft.read?_of_step rfl hdot (Nat.le_refl _),
      PatternDraft.read?_of_step rfl hstar (Nat.le_refl _)]
  | anyOne =>
    have hdot : (draftOf anyCase items).step? ('.' :: rest) =
        some (draftOf anyCase (.expression (nested anyCase .anyOne) :: items), rest) := rfl
    rw [spelling, List.singleton_append, PatternDraft.read?_of_step rfl hdot (Nat.le_refl _)]
  | exactly c =>
    obtain ⟨first, more, htext, hshorter, hstep⟩ :=
      step?_literalText (draftOf anyCase items) c rest
    rw [show (draftOf anyCase items).flags = pieceFlags anyCase from rfl,
      literalRegex?_pieceFlags] at hstep
    rw [spelling, htext, PatternDraft.read?_of_step rfl hstep hshorter]
    rfl

/-- The pieces are read one after another, up to the anchor at the end. -/
theorem read?_pieces (anyCase : Bool) (items : List BranchItem) (pieces : List Wildcard) :
    (draftOf anyCase items).read? (pieces.flatMap spelling ++ ['$']) =
      some (draftOf anyCase
        (.expression ⟨.look .textEnd, 0⟩ ::
          (((pieces.map (nested anyCase)).map .expression).reverse ++ items))) := by
  induction pieces generalizing items with
  | nil =>
    have hdollar : (draftOf anyCase items).step? ['$'] =
        some (draftOf anyCase (.expression ⟨.look .textEnd, 0⟩ :: items), []) := rfl
    rw [List.flatMap_nil, List.nil_append, PatternDraft.read?_of_step rfl hdollar (Nat.le_refl _),
      PatternDraft.read?_nil rfl]
    rfl
  | cons piece pieces ih =>
    rw [List.flatMap_cons, List.append_assoc, read?_spelling _ _ _ (pastLazy_spelling pieces), ih,
      List.map_cons, List.map_cons, List.reverse_cons, List.append_assoc, List.singleton_append]

/-- The flags and the anchor are read first. -/
theorem read?_opening (anyCase : Bool) (rest : List Char) :
    (PatternDraft.mk {} [] { after := {}, captures := false } []).read?
        ((if anyCase then "(?is)" else "(?s)").toList ++ '^' :: rest) =
      (draftOf anyCase [.expression ⟨.look .textStart, 0⟩, .flags]).read? rest := by
  have hcaret : (draftOf anyCase [.flags]).step? ('^' :: rest) =
      some (draftOf anyCase [.expression ⟨.look .textStart, 0⟩, .flags], rest) := by
    cases anyCase <;> rfl
  rw [← PatternDraft.read?_of_step rfl hcaret (Nat.le_refl _)]
  cases anyCase with
  | true => exact PatternDraft.read?_of_step rfl rfl (by simp)
  | false => exact PatternDraft.read?_of_step rfl rfl (by simp)

/-- The expressions of a branch and how they nest; the flags before them are one more item. -/
theorem branchOf_expressions (first : Nested Regex) (regexes : List (Nested Regex)) :
    branchOf (((first :: regexes).map BranchItem.expression).reverse ++ [.flags]) =
      ⟨concat ((first :: regexes).map (·.value)),
        (first :: regexes).foldl (fun depth regex => max depth regex.depth) 0 + 1⟩ := by
  have hregexes (f : BranchItem → Option (Nested Regex))
      (hf : ∀ regex, f (.expression regex) = some regex) :
      ((first :: regexes).map BranchItem.expression).filterMap f = first :: regexes := by
    rw [List.filterMap_map, show f ∘ BranchItem.expression = some from funext hf,
      List.filterMap_some]
  have hitems : ¬ (((first :: regexes).map BranchItem.expression).reverse ++
      [BranchItem.flags]).length ≤ 1 := by
    simp
  rw [branchOf, List.reverse_append, List.reverse_reverse, if_neg hitems, List.reverse_singleton,
    List.singleton_append, List.filterMap_cons_none rfl, hregexes _ fun _ => rfl]

/-- No level is deeper than all of them. -/
theorem foldl_depth_le {limit : Nat} {regexes : List (Nested Regex)}
    (h : ∀ regex ∈ regexes, regex.depth ≤ limit) {depth : Nat} (hdepth : depth ≤ limit) :
    regexes.foldl (fun depth regex => max depth regex.depth) depth ≤ limit := by
  induction regexes generalizing depth with
  | nil => exact hdepth
  | cons regex regexes ih =>
    obtain ⟨hregex, hrest⟩ := List.forall_mem_cons.1 h
    exact ih hrest (Nat.max_le.2 ⟨hdepth, hregex⟩)

/-- The expressions of a whole pattern, from the first on. -/
def wholeNested (anyCase : Bool) (pieces : List Wildcard) : List (Nested Regex) :=
  ⟨.look .textStart, 0⟩ :: (pieces.map (nested anyCase) ++ [⟨.look .textEnd, 0⟩])

/-- Only repetitions nest, by one level. -/
theorem depth_le_of_mem_wholeNested {anyCase : Bool} {pieces : List Wildcard}
    {regex : Nested Regex} (h : regex ∈ wholeNested anyCase pieces) : regex.depth ≤ 1 := by
  simp only [wholeNested, List.mem_cons, List.mem_append, List.mem_map, List.not_mem_nil,
    or_false] at h
  obtain rfl | ⟨piece, -, rfl⟩ | rfl := h
  · exact Nat.zero_le 1
  · rw [nested]
    split
    · exact Nat.le_refl 1
    · exact Nat.zero_le 1
  · exact Nat.zero_le 1

/-- A whole pattern is read as one branch of its expressions. -/
theorem read?_wholeSpelling (anyCase : Bool) (pieces : List Wildcard) :
    (PatternDraft.mk {} [] { after := {}, captures := false } []).read?
        (wholeSpelling anyCase pieces) =
      some (draftOf anyCase
        (((wholeNested anyCase pieces).map .expression).reverse ++ [.flags])) := by
  rw [wholeSpelling, read?_opening, read?_pieces]
  simp [wholeNested]

/-- The expressions of a whole pattern one after another are its expression. -/
theorem content_wholeNested (anyCase : Bool) (pieces : List Wildcard) :
    (draftOf anyCase
      (((wholeNested anyCase pieces).map .expression).reverse ++ [.flags])).group.content =
      ⟨wholeRegex anyCase pieces,
        (wholeNested anyCase pieces).foldl (fun depth regex => max depth regex.depth) 0 + 1⟩ := by
  rw [wholeRegex, List.cons_append]
  refine (branchOf_expressions ..).trans ?_
  simp [wholeNested, nested, Function.comp_def]

/-- The spelling of a pattern is read as its expression. -/
theorem ofPattern?_wholeSpelling (anyCase : Bool) (pieces : List Wildcard) :
    Regex.ofPattern? (String.ofList (wholeSpelling anyCase pieces)) =
      some (wholeRegex anyCase pieces) := by
  have hdepth : (wholeNested anyCase pieces).foldl (fun depth regex => max depth regex.depth) 0 ≤
      1 := foldl_depth_le (fun _ => depth_le_of_mem_wholeNested) (Nat.zero_le 1)
  rw [Regex.ofPattern?, String.toList_ofList, read?_wholeSpelling]
  change (if (draftOf anyCase _).outer.isEmpty && _ then some _ else none) = _
  rw [content_wholeNested]
  refine if_pos ?_
  have hlimit : 2 ≤ nestLimit := by decide
  simp only [draftOf, List.isEmpty_nil, Bool.true_and, decide_eq_true_eq]
  omega

/-- The text that is read back here has its full stop escaped. -/
example : wholeSpelling false (ofPattern "1.5%".toList) = "(?s)^1\\.5.*$".toList := by
  decide +kernel

end Wildcard

end ScopeQuery
