import Mathlib.Data.List.TakeWhile
import ScopeQuery.Text.Blank

/-!
# Blanks and words

What stands between blanks. A text whose two ends are no blanks is told from the blanks around
it, and trimming gives it back; a text is made of its words and the blanks around and between
them.
-/

namespace ScopeQuery

/-! ### Blanks at the ends -/

/-- Whether a text begins and ends with a character that is no blank. -/
structure HasFirmEnds (text : List Char) : Prop where
  /-- The first character is no blank. -/
  first : ∃ c rest, text = c :: rest ∧ Text.isBlank c = false
  /-- The last character is no blank. -/
  last : ∃ rest c, text = rest ++ [c] ∧ Text.isBlank c = false

/-- There are only blanks where there is nothing. -/
theorem noBlanks : ∀ c ∈ ([] : List Char), Text.isBlank c = true := fun _ h => nomatch h

/-- There are only blanks in the text of one space. -/
theorem oneBlank : ∀ c ∈ [' '], Text.isBlank c = true := by
  intro c hc
  rw [List.mem_singleton.1 hc]
  rfl

/-- Blanks in front are dropped. -/
theorem dropWhile_blanks {blanks : List Char} (h : ∀ c ∈ blanks, Text.isBlank c = true)
    (text : List Char) : (blanks ++ text).dropWhile Text.isBlank = text.dropWhile Text.isBlank := by
  induction blanks with
  | nil => rfl
  | cons c rest ih =>
    rw [List.cons_append, List.dropWhile_cons_of_pos (h c (by simp)),
      ih fun d hd => h d (by simp [hd])]

/-- Trimming takes the blanks around a text with firm ends away, and nothing else. -/
theorem HasFirmEnds.trim_padded {text : List Char} (h : HasFirmEnds text)
    {before : List Char} (hbefore : ∀ c ∈ before, Text.isBlank c = true)
    {after : List Char} (hafter : ∀ c ∈ after, Text.isBlank c = true) :
    Text.trim (before ++ text ++ after) = text := by
  obtain ⟨first, rest, hfirst, hfirm⟩ := h.first
  obtain ⟨front, last, hlast, hend⟩ := h.last
  have hleft : (before ++ text ++ after).dropWhile Text.isBlank = text ++ after := by
    rw [List.append_assoc, dropWhile_blanks hbefore, hfirst, List.cons_append,
      List.dropWhile_cons_of_neg (by simp [hfirm])]
  have hreversed : (text ++ after).reverse = after.reverse ++ last :: front.reverse := by
    simp [hlast]
  rw [Text.trim, hleft, hreversed, dropWhile_blanks fun c hc => hafter c (by simpa using hc),
    List.dropWhile_cons_of_neg (by simp [hend]), hlast]
  simp

/-- A text with firm ends is trimmed already. -/
theorem HasFirmEnds.trim_self {text : List Char} (h : HasFirmEnds text) :
    Text.trim text = text := by
  simpa using h.trim_padded noBlanks noBlanks

/-- A text between two characters that are no blanks has firm ends. -/
theorem HasFirmEnds.enclosed {opening closing : Char} (hopening : Text.isBlank opening = false)
    (hclosing : Text.isBlank closing = false) (inner : List Char) :
    HasFirmEnds (opening :: inner ++ [closing]) :=
  ⟨⟨opening, inner ++ [closing], rfl, hopening⟩, ⟨opening :: inner, closing, rfl, hclosing⟩⟩

/-- Two texts with firm ends have firm ends together, whatever stands between them. -/
theorem HasFirmEnds.between {text value : List Char} (htext : HasFirmEnds text)
    (hvalue : HasFirmEnds value) (middle : List Char) : HasFirmEnds (text ++ middle ++ value) := by
  obtain ⟨c, rest, hc, hfirst⟩ := htext.first
  obtain ⟨front, d, hd, hlast⟩ := hvalue.last
  exact ⟨⟨c, rest ++ middle ++ value, by simp [hc], hfirst⟩,
    ⟨text ++ middle ++ front, d, by simp [hd], hlast⟩⟩

/-- Blanks behind blanks are blanks. -/
theorem blanks_append {text rest : List Char} (h : ∀ c ∈ text, Text.isBlank c = true)
    (hrest : ∀ c ∈ rest, Text.isBlank c = true) : ∀ c ∈ text ++ rest, Text.isBlank c = true := by
  intro c hc
  rcases List.mem_append.1 hc with hc | hc
  · exact h c hc
  · exact hrest c hc

/-- A text with firm ends is told from the blanks around it. -/
theorem HasFirmEnds.padded_inj {text other before after left right : List Char}
    (h : HasFirmEnds text) (hother : HasFirmEnds other)
    (hbefore : ∀ c ∈ before, Text.isBlank c = true) (hafter : ∀ c ∈ after, Text.isBlank c = true)
    (hleft : ∀ c ∈ left, Text.isBlank c = true) (hright : ∀ c ∈ right, Text.isBlank c = true)
    (heq : before ++ text ++ after = left ++ other ++ right) :
    before = left ∧ text = other ∧ after = right := by
  have htext : text = other := by
    rw [← h.trim_padded hbefore hafter, heq, hother.trim_padded hleft hright]
  have hsame : before = left := by
    obtain ⟨c, rest, hc, hfirm⟩ := h.first
    have htaken := congrArg (List.takeWhile Text.isBlank) heq
    rw [← htext, hc, List.append_assoc, List.append_assoc,
      List.takeWhile_append_of_pos hbefore, List.takeWhile_append_of_pos hleft] at htaken
    simpa [hfirm] using htaken
  refine ⟨hsame, htext, ?_⟩
  rw [hsame, htext] at heq
  exact List.append_cancel_left heq

/-- What trimming takes away is blank. -/
theorem trim_spec (text : List Char) :
    ∃ before after, text = before ++ Text.trim text ++ after ∧
      (∀ c ∈ before, Text.isBlank c = true) ∧ ∀ c ∈ after, Text.isBlank c = true := by
  refine ⟨text.takeWhile Text.isBlank,
    ((text.dropWhile Text.isBlank).reverse.takeWhile Text.isBlank).reverse, ?_, ?_, ?_⟩
  · rw [List.append_assoc, Text.trim, ← List.reverse_append, List.takeWhile_append_dropWhile,
      List.reverse_reverse, List.takeWhile_append_dropWhile]
  · exact fun c hc => List.mem_takeWhile_imp hc
  · exact fun c hc => List.mem_takeWhile_imp (List.mem_reverse.1 hc)

/-- A text with firm ends is left by trimming only when blanks stand behind it. -/
theorem HasFirmEnds.blanks_of_trim {text rest : List Char} (h : HasFirmEnds text)
    (htrim : Text.trim (text ++ rest) = text) : ∀ c ∈ rest, Text.isBlank c = true := by
  obtain ⟨before, after, hsplit, hbefore, hafter⟩ := trim_spec (text ++ rest)
  rw [htrim] at hsplit
  obtain ⟨c, tail, hc, hfirm⟩ := h.first
  cases before with
  | nil =>
    rw [List.nil_append] at hsplit
    rw [List.append_cancel_left hsplit]
    exact hafter
  | cons d before =>
    rw [hc] at hsplit
    obtain ⟨rfl, -⟩ := List.cons.inj hsplit
    rw [hbefore _ (by simp)] at hfirm
    cases hfirm

/-! ### Lower case -/

/-- What is no letter in lower case is written as itself only. -/
theorem eq_of_toLower {c s : Char} (hs : s.isLower = false) (h : c.toLower = s) : c = s := by
  by_cases hletter : c.val ≥ 'A'.val ∧ c.val ≤ 'Z'.val
  · -- The lower case of a capital letter is a small letter, which the other character is not.
    have hvalue : c.toLower.val = c.val + ('a'.val - 'A'.val) := congrArg Char.val (dif_pos hletter)
    have hrange : (decide (s.val ≥ 'a'.val) && decide (s.val ≤ 'z'.val)) = false := hs
    rw [h] at hvalue
    simp only [hvalue, ge_iff_le, Bool.and_eq_false_iff, decide_eq_false_iff_not] at hrange
    grind [UInt32.toNat_add, UInt32.le_iff_toNat_le]
  · have hkept : c.toLower = c := dif_neg hletter
    rw [← hkept, h]

/-- What is no blank is no character that is one. -/
theorem ne_of_isBlank {b c : Char} (hb : Text.isBlank b = true) (hc : Text.isBlank c = false) :
    b ≠ c := by
  rintro rfl
  rw [hc] at hb
  cases hb

namespace Text

/-- A blank has no other lower case. -/
theorem toLower_of_isBlank {c : Char} (h : isBlank c = true) : c.toLower = c := by
  refine dif_neg fun hletter => ?_
  have hlow : 65 ≤ c.toNat := UInt32.le_iff_toNat_le.1 hletter.1
  have hhigh : c.toNat ≤ 90 := UInt32.le_iff_toNat_le.1 hletter.2
  simp only [isBlank, Bool.or_eq_true, Bool.and_eq_true, decide_eq_true_eq, beq_iff_eq] at h
  omega

/-- The lower case of a text that begins with a blank. -/
theorem lower_cons_of_isBlank {c : Char} (h : isBlank c = true) (text : List Char) :
    lower (c :: text) = c :: lower text := by
  rw [lower, List.map_cons, toLower_of_isBlank h]
  rfl

/-- Blanks have no other lower case. -/
theorem lower_of_blanks {text : List Char} (h : ∀ c ∈ text, isBlank c = true) :
    lower text = text := by
  refine (List.map_congr_left fun c hc => ?_).trans (List.map_id text)
  exact toLower_of_isBlank (h c hc)

/-- The lower case of two texts one after another. -/
theorem lower_append (text rest : List Char) : lower (text ++ rest) = lower text ++ lower rest :=
  List.map_append

/-! ### Words -/

/-- The characters of a text that are no blanks. -/
def solid (text : List Char) : List Char := text.filter fun c => !isBlank c

/-- The characters of two texts that are no blanks. -/
theorem solid_append (text rest : List Char) : solid (text ++ rest) = solid text ++ solid rest :=
  List.filter_append text rest

/-- A text has no other characters exactly when it has only blanks. -/
theorem solid_eq_nil_iff (text : List Char) : solid text = [] ↔ ∀ c ∈ text, isBlank c = true := by
  simp [solid]

/-- Blanks are left out. -/
theorem solid_of_blanks {text : List Char} (h : ∀ c ∈ text, isBlank c = true) : solid text = [] :=
  (solid_eq_nil_iff text).2 h

/-- Whether a text is a word: it is not empty and has no blank. -/
structure IsWord (word : List Char) : Prop where
  /-- There is something in it. -/
  nonempty : word ≠ []
  /-- There is no blank in it. -/
  noBlank : ∀ c ∈ word, isBlank c = false

/-- Whether a text is a word is decided by its characters. -/
instance (word : List Char) : Decidable (IsWord word) :=
  decidable_of_iff (word ≠ [] ∧ (word.all fun c => !isBlank c) = true)
    ⟨fun h => ⟨h.1, fun c hc => by simpa using List.all_eq_true.1 h.2 c hc⟩,
      fun h => ⟨h.nonempty, List.all_eq_true.2 fun c hc => by simp [h.noBlank c hc]⟩⟩

/-- Whether a text stands at the end of a word: it is empty or begins with a blank. -/
def EndsWord (text : List Char) : Prop := ∀ c rest, text = c :: rest → isBlank c = true

/-- What has been read of the first word, and what the words behind it are read from. -/
theorem wordsAfter_eq_cons {read text first : List Char} {rest : List (List Char)}
    (hread : IsWord read) (h : wordsAfter read text = first :: rest) :
    ∃ more behind, text = more ++ behind ∧ first = read.reverse ++ more ∧ IsWord first ∧
      EndsWord behind ∧ words behind = rest := by
  induction text generalizing read with
  | nil =>
    rw [wordsAfter, if_neg (by simpa using hread.nonempty)] at h
    cases h
    refine ⟨[], [], rfl, by simp, ?_, fun c rest hnil => (nomatch hnil), rfl⟩
    exact ⟨by simpa using hread.nonempty, fun c hc => hread.noBlank c (by simpa using hc)⟩
  | cons c text ih =>
    rw [wordsAfter] at h
    split at h
    · rename_i hblank
      rw [if_neg (by simpa using hread.nonempty)] at h
      cases h
      refine ⟨[], c :: text, rfl, by simp, ?_, ?_, ?_⟩
      · exact ⟨by simpa using hread.nonempty, fun d hd => hread.noBlank d (by simpa using hd)⟩
      · intro d rest hcons
        obtain ⟨rfl, -⟩ := List.cons.inj hcons
        exact hblank
      · rw [words, wordsAfter, if_pos hblank, if_pos (by rfl)]
    · rename_i hsolid
      have hword : IsWord (c :: read) := by
        refine ⟨by simp, fun d hd => ?_⟩
        rcases List.mem_cons.1 hd with rfl | hd
        · simpa using hsolid
        · exact hread.noBlank d hd
      obtain ⟨more, behind, rfl, rfl, hfirst, hbehind, hrest⟩ := ih hword h
      exact ⟨c :: more, behind, rfl, by simp, by simpa using hfirst, hbehind, hrest⟩

/-- A text with a first word begins with it, but for blanks. -/
theorem words_eq_cons {text first : List Char} {rest : List (List Char)}
    (h : words text = first :: rest) :
    ∃ lead behind, text = lead ++ first ++ behind ∧ (∀ c ∈ lead, isBlank c = true) ∧
      IsWord first ∧ EndsWord behind ∧ words behind = rest := by
  induction text with
  | nil => cases h
  | cons c text ih =>
    rw [words, wordsAfter] at h
    split at h
    · rename_i hblank
      rw [if_pos (by rfl)] at h
      obtain ⟨lead, behind, rfl, hlead, hfirst, hbehind, hrest⟩ := ih h
      refine ⟨c :: lead, behind, rfl, fun d hd => ?_, hfirst, hbehind, hrest⟩
      rcases List.mem_cons.1 hd with rfl | hd
      · exact hblank
      · exact hlead d hd
    · rename_i hsolid
      have hword : IsWord [c] := ⟨by simp, by simpa using hsolid⟩
      obtain ⟨more, behind, rfl, rfl, hfirst, hbehind, hrest⟩ := wordsAfter_eq_cons hword h
      exact ⟨[], behind, rfl, by simp, by simpa using hfirst, hbehind, hrest⟩

/-- A word that has been read in part is among the words. -/
theorem wordsAfter_ne_nil {read : List Char} (hread : read ≠ []) (text : List Char) :
    wordsAfter read text ≠ [] := by
  induction text generalizing read with
  | nil => simp [wordsAfter, hread]
  | cons c text ih =>
    rw [wordsAfter]
    split
    · simp [hread]
    · exact ih (by simp)

/-- A text without a word has only blanks. -/
theorem blanks_of_words_eq_nil {text : List Char} (h : words text = []) :
    ∀ c ∈ text, isBlank c = true := by
  induction text with
  | nil => exact noBlanks
  | cons c text ih =>
    rw [words, wordsAfter] at h
    split at h
    · rename_i hblank
      rw [if_pos (by rfl)] at h
      intro d hd
      rcases List.mem_cons.1 hd with rfl | hd
      · exact hblank
      · exact ih h d hd
    · exact absurd h (wordsAfter_ne_nil (by simp) text)

/-- The words of a text are words. -/
theorem isWord_of_mem_words {text word : List Char} (h : word ∈ words text) : IsWord word := by
  generalize hfound : words text = found at h
  induction found generalizing text with
  | nil => cases h
  | cons first rest ih =>
    obtain ⟨lead, behind, -, -, hfirst, -, hrest⟩ := words_eq_cons hfound
    rcases List.mem_cons.1 h with rfl | hmem
    · exact hfirst
    · exact ih hrest hmem

/-- No space is in the lower case of a word. -/
theorem IsWord.noSpace {word : List Char} (h : IsWord word) : ' ' ∉ lower word := by
  intro hspace
  obtain ⟨c, hc, hlower⟩ := List.mem_map.1 hspace
  obtain rfl : c = ' ' := eq_of_toLower rfl hlower
  exact absurd (h.noBlank _ hc) (by decide)

/-- What is a word in lower case is a word. -/
theorem IsWord.of_lower {word : List Char} (h : IsWord (lower word)) : IsWord word where
  nonempty := by
    rintro rfl
    exact h.nonempty rfl
  noBlank c hc := by
    refine Bool.eq_false_iff.2 fun hblank => ?_
    have hlower := h.noBlank c.toLower (List.mem_map_of_mem hc)
    rw [toLower_of_isBlank hblank, hblank] at hlower
    cases hlower

/-- A word has firm ends. -/
theorem IsWord.firm {word : List Char} (h : IsWord word) : HasFirmEnds word where
  first := by
    cases word with
    | nil => exact absurd rfl h.nonempty
    | cons c rest => exact ⟨c, rest, rfl, h.noBlank c (by simp)⟩
  last := ⟨word.dropLast, word.getLast h.nonempty,
    (List.dropLast_concat_getLast h.nonempty).symm, h.noBlank _ (List.getLast_mem h.nonempty)⟩

end Text

end ScopeQuery
