import ScopeQuery.Proofs.RegexMeaning
import ScopeQuery.Proofs.WildcardSpelling

/-!
# The language of a wildcard pattern

Which texts a pattern covers, read off the pattern character by character, and that matching
finds exactly these. The expression of a pattern is anchored at both ends, so a stretch of a
text matches it only as the whole text. Between the anchors every piece takes its own part of
the text, so the pieces fit the rest of a text one by one.
-/

namespace ScopeQuery

namespace CharSet

/-- One character is in the set of it alone. -/
theorem contains_single (c d : Char) : (single c).contains d = true ↔ d = c := by
  rw [← Char.toNat_inj]
  simp only [contains, single, range, insideAt]
  split
  · simp only [Bool.false_eq_true, false_iff]
    omega
  · split <;> simp only [Bool.not_false, Bool.not_true, Bool.false_eq_true, true_iff, false_iff]
    · omega
    · omega

/-- Every character is in the full set. -/
theorem contains_full (c : Char) : full.contains c = true := rfl

end CharSet

/-- Whether a wildcard pattern covers a text. -/
inductive Covers : List Char → List Char → Prop
  /-- The empty pattern covers the empty text. -/
  | nil : Covers [] []
  /-- A percent sign covers any sequence of characters. -/
  | anySequence {pattern text : List Char} (skipped : List Char) (h : Covers pattern text) :
    Covers ('%' :: pattern) (skipped ++ text)
  /-- An underscore covers any one character. -/
  | anyOne {pattern text : List Char} (c : Char) (h : Covers pattern text) :
    Covers ('_' :: pattern) (c :: text)
  /-- A character after a backslash covers itself. -/
  | escaped {pattern text : List Char} (c : Char) (h : Covers pattern text) :
    Covers ('\\' :: c :: pattern) (c :: text)
  /-- A backslash with nothing after it covers the empty text. -/
  | dangling : Covers ['\\'] []
  /-- Any other character covers itself. -/
  | itself {pattern text : List Char} {c : Char} (hc : c ≠ '%' ∧ c ≠ '_' ∧ c ≠ '\\')
    (h : Covers pattern text) : Covers (c :: pattern) (c :: text)

namespace Regex

/-- Expressions one after another match one stretch after another. -/
theorem matches_concat_cons (text : List Char) (regex : Regex) (rest : List Regex) (i j : Nat) :
    (concat (regex :: rest)).Matches text i j ↔
      ∃ k, regex.Matches text i k ∧ (concat rest).Matches text k j := by
  cases rest with
  | nil => simp [concat, Matches]
  | cons next rest => rfl

end Regex

namespace Wildcard

/-- Whether the pieces of a pattern fit a text one by one. -/
def Fits (anyCase : Bool) : List Wildcard → List Char → Prop
  | [], text => text = []
  | .anySequence :: pieces, text => ∃ n ≤ text.length, Fits anyCase pieces (text.drop n)
  | .anyOne :: pieces, text => ∃ c rest, text = c :: rest ∧ Fits anyCase pieces rest
  | .exactly c :: pieces, text =>
    ∃ d rest, text = d :: rest ∧ (charSet anyCase c).contains d = true ∧ Fits anyCase pieces rest

/-- Any number of characters lead to as many positions further. -/
theorem steps_full (text : List Char) (n k : Nat) {i : Nat} (hi : i ≤ text.length) :
    Steps ((Regex.chars CharSet.full).Matches text) n i k ↔ k = i + n ∧ k ≤ text.length := by
  induction n generalizing i with
  | zero =>
    simp only [Steps, Nat.add_zero]
    constructor
    · rintro rfl
      exact ⟨rfl, hi⟩
    · exact fun h => h.1.symm
  | succ n ih =>
    simp only [Steps, Regex.Matches]
    constructor
    · rintro ⟨_, ⟨rfl, c, hc, -⟩, hsteps⟩
      have hlt : i < text.length := (List.getElem?_eq_some_iff.1 hc).1
      obtain ⟨rfl, hk⟩ := (ih hlt).1 hsteps
      exact ⟨by omega, hk⟩
    · rintro ⟨rfl, hk⟩
      have hlt : i < text.length := by omega
      refine ⟨i + 1, ⟨rfl, text[i], List.getElem?_eq_getElem hlt, rfl⟩, (ih hlt).2 ⟨?_, hk⟩⟩
      omega

section

variable {text : List Char} {i : Nat} {P : Nat → Prop} {Q : List Char → Prop}
  (hrest : ∀ k ≤ text.length, P k ↔ Q (text.drop k))
include hrest

/-- A character of a set takes the first one of the rest of the text. -/
theorem exists_matches_chars (set : CharSet) :
    (∃ k, (Regex.chars set).Matches text i k ∧ P k) ↔
      ∃ c rest, text.drop i = c :: rest ∧ set.contains c = true ∧ Q rest := by
  constructor
  · rintro ⟨_, ⟨rfl, c, hc, hset⟩, hP⟩
    obtain ⟨hlt, rfl⟩ := List.getElem?_eq_some_iff.1 hc
    exact ⟨_, _, List.drop_eq_getElem_cons hlt, hset, (hrest _ hlt).1 hP⟩
  · rintro ⟨c, rest, hdrop, hset, hQ⟩
    have hlt : i < text.length := by
      refine Nat.lt_of_not_le fun hle => ?_
      rw [List.drop_eq_nil_iff.2 hle] at hdrop
      cases hdrop
    rw [List.drop_eq_getElem_cons hlt] at hdrop
    cases hdrop
    exact ⟨_, ⟨rfl, _, List.getElem?_eq_getElem hlt, hset⟩, (hrest _ hlt).2 hQ⟩

/-- Any sequence of characters takes any part that the rest of the text starts with. -/
theorem exists_matches_many (hi : i ≤ text.length) :
    (∃ k, (Regex.many (.chars CharSet.full)).Matches text i k ∧ P k) ↔
      ∃ n ≤ (text.drop i).length, Q ((text.drop i).drop n) := by
  rw [List.length_drop]
  constructor
  · rintro ⟨k, ⟨n, -, -, hsteps⟩, hP⟩
    obtain ⟨rfl, hk⟩ := (steps_full text n k hi).1 hsteps
    refine ⟨n, by omega, ?_⟩
    rw [List.drop_drop]
    exact (hrest _ hk).1 hP
  · rintro ⟨n, hn, hQ⟩
    have hk : i + n ≤ text.length := by omega
    rw [List.drop_drop] at hQ
    refine ⟨i + n, ⟨n, Nat.zero_le n, fun _ hbound => (by cases hbound), ?_⟩, (hrest _ hk).2 hQ⟩
    exact (steps_full text n _ hi).2 ⟨rfl, hk⟩

end

/-- From a position on the pieces match the rest of the text that they fit. -/
theorem matches_pieces (anyCase : Bool) (text : List Char) (pieces : List Wildcard) {i : Nat}
    (hi : i ≤ text.length) :
    (∃ j, (Regex.concat (pieces.map (regex anyCase) ++ [.look .textEnd])).Matches text i j) ↔
      Fits anyCase pieces (text.drop i) := by
  induction pieces generalizing i with
  | nil =>
    rw [Fits, List.drop_eq_nil_iff, ← List.getElem?_eq_none_iff, ← Option.isNone_iff_eq_none]
    constructor
    · rintro ⟨j, -, -, hend⟩
      exact hend
    · exact fun hend => ⟨i, rfl, hi, hend⟩
  | cons piece pieces ih =>
    simp only [List.map_cons, List.cons_append, Regex.matches_concat_cons]
    rw [exists_comm]
    simp only [exists_and_left]
    have hrest (k : Nat) (hk : k ≤ text.length) := ih hk
    cases piece with
    | anySequence => exact exists_matches_many hrest hi
    | anyOne =>
      refine (exists_matches_chars hrest CharSet.full).trans ?_
      simp only [CharSet.contains_full, true_and, Fits]
    | exactly c => exact exists_matches_chars hrest (charSet anyCase c)

/-- The expression of a pattern occurs in the texts that its pieces fit. -/
theorem occursIn_wholeRegex (anyCase : Bool) (pieces : List Wildcard) (text : List Char) :
    (wholeRegex anyCase pieces).occursIn text = true ↔ Fits anyCase pieces text := by
  have hpieces := matches_pieces anyCase text pieces (Nat.zero_le text.length)
  rw [List.drop_zero] at hpieces
  rw [Regex.occursIn_iff, wholeRegex, ← hpieces]
  simp only [List.cons_append, Regex.matches_concat_cons]
  constructor
  · rintro ⟨i, j, -, _, ⟨rfl, hi, hstart⟩, hj⟩
    -- Only the first position has nothing before it.
    cases i with
    | zero => exact ⟨j, hj⟩
    | succ i =>
      have hnone : text[i]? = none := Option.isNone_iff_eq_none.1 hstart
      exact absurd (List.getElem?_eq_none_iff.1 hnone) (Nat.not_le_of_lt hi)
  · rintro ⟨j, hj⟩
    exact ⟨0, j, Nat.zero_le _, 0, ⟨rfl, Nat.zero_le _, rfl⟩, hj⟩

/-- Any other character of a pattern is a piece of its own. -/
theorem ofPattern_cons_of_ne {c : Char} (hc : c ≠ '%' ∧ c ≠ '_' ∧ c ≠ '\\') (rest : List Char) :
    ofPattern (c :: rest) = .exactly c :: ofPattern rest := by
  obtain ⟨hsequence, hone, hescape⟩ := hc
  rw [ofPattern]
  · exact hsequence
  · exact hone
  · exact fun h => absurd h hescape
  · exact fun _ _ h => absurd h hescape

/-- The pieces of a pattern fit the texts that it covers. -/
theorem fits_of_covers {pattern text : List Char} (h : Covers pattern text) :
    Fits false (ofPattern pattern) text := by
  induction h with
  | nil => rfl
  | anySequence skipped _ ih =>
    refine ⟨skipped.length, ?_, ?_⟩
    · simp
    · rwa [List.drop_left]
  | anyOne c _ ih => exact ⟨c, _, rfl, ih⟩
  | escaped c _ ih => exact ⟨c, _, rfl, (CharSet.contains_single c c).2 rfl, ih⟩
  | dangling => rfl
  | itself hc _ ih =>
    rw [ofPattern_cons_of_ne hc]
    exact ⟨_, _, rfl, (CharSet.contains_single _ _).2 rfl, ih⟩

/-- A pattern covers the texts that its pieces fit. -/
theorem covers_of_fits {pattern text : List Char} (h : Fits false (ofPattern pattern) text) :
    Covers pattern text := by
  fun_induction ofPattern pattern generalizing text with
  | case1 =>
    cases h
    exact .nil
  | case2 rest ih =>
    obtain ⟨n, -, hrest⟩ := h
    rw [← List.take_append_drop n text]
    exact .anySequence _ (ih hrest)
  | case3 rest ih =>
    obtain ⟨c, after, rfl, hafter⟩ := h
    exact .anyOne c (ih hafter)
  | case4 =>
    cases h
    exact .dangling
  | case5 c rest ih =>
    obtain ⟨d, after, rfl, hc, hafter⟩ := h
    rw [(CharSet.contains_single c d).1 hc]
    exact .escaped c (ih hafter)
  | case6 c rest hsequence hone hdangling hescape ih =>
    obtain ⟨d, after, rfl, hc, hafter⟩ := h
    rw [(CharSet.contains_single c d).1 hc]
    refine .itself ⟨hsequence, hone, fun hbackslash => ?_⟩ (ih hafter)
    cases rest with
    | nil => exact hdangling hbackslash rfl
    | cons next rest => exact hescape next rest hbackslash rfl

end Wildcard

/-- Matching finds the texts that a pattern covers: the pattern is spelled as a regular
expression that is read back as the one that runs, and it matches exactly these. -/
theorem matchesWildcards_iff_covers (settings : MatchSettings) (text pattern : String)
    (hcase : settings.anyCaseLike = false)
    (hfits : (Wildcard.wholeRegex false (Wildcard.ofPattern pattern.toList)).footprint ≤
      settings.sizeLimit) :
    Regex.ofPattern? (String.ofList
        (Wildcard.wholeSpelling false (Wildcard.ofPattern pattern.toList))) =
      some (Wildcard.wholeRegex false (Wildcard.ofPattern pattern.toList)) ∧
    ∃ found, matchesWildcards settings text pattern = .ok found ∧
      (found = true ↔ Covers pattern.toList text.toList) := by
  have hmatches : matchesWildcards settings text pattern =
      .ok ((Wildcard.wholeRegex false (Wildcard.ofPattern pattern.toList)).occursIn
        text.toList) := by
    rw [matchesWildcards, hcase]
    exact if_pos hfits
  refine ⟨Wildcard.ofPattern?_wholeSpelling false _, _, hmatches, ?_⟩
  rw [Wildcard.occursIn_wholeRegex]
  exact ⟨Wildcard.covers_of_fits, Wildcard.fits_of_covers⟩

/-- Wildcards cover line feeds, a backslash takes a percent sign literally, and a dot stands for
itself. -/
theorem matchesWildcards_over_lines :
    (Wildcard.wholeRegex false (Wildcard.ofPattern "v_.%\\%\\".toList)).footprint ≤ 1048576 ∧
      matchesWildcards ⟨false, 1048576⟩ "v1.\n50%" "v_.%\\%\\" = .ok true := by
  have hfits : (Wildcard.wholeRegex false (Wildcard.ofPattern "v_.%\\%\\".toList)).footprint ≤
      1048576 := by decide +kernel
  obtain ⟨-, found, hfound, hcovers⟩ :=
    matchesWildcards_iff_covers ⟨false, 1048576⟩ "v1.\n50%" "v_.%\\%\\" rfl hfits
  have hall : Covers "v_.%\\%\\".toList "v1.\n50%".toList :=
    .itself (by decide) <| .anyOne '1' <| .itself (by decide) <|
      .anySequence ['\n', '5', '0'] <| .escaped '%' .dangling
  rw [hfound, hcovers.2 hall]
  exact ⟨hfits, rfl⟩

end ScopeQuery
