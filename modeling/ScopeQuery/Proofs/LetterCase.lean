import ScopeQuery.Proofs.BlankTexts
import ScopeQuery.Proofs.CharacterSets
import ScopeQuery.Proofs.WildcardLanguage

/-!
# Letter case in wildcard patterns

With case ignored, a character of a pattern stands for all its case variants, so the case of ASCII
letters changes nothing, neither in the text nor in the pattern. The pieces of a pattern are read
off it alike in every case, since no wildcard is a letter, and a letter after a backslash is one
piece like any other. On ASCII texts and patterns the result is that of matching both in lower case
with case respected: of the ASCII characters, only a letter has a variant that is ASCII too.
-/

namespace ScopeQuery

/-! ### Folding ASCII characters -/

namespace Unicode

/-- Whether a code point is that of an ASCII capital. -/
def IsCapital (point : Nat) : Prop := 65 ≤ point ∧ point ≤ 90

instance (point : Nat) : Decidable (IsCapital point) := inferInstanceAs (Decidable (_ ∧ _))

/-- The run of the ASCII capitals. -/
def capitalRun : FoldRun := ⟨65, 26, 1, 32⟩

/-- The ASCII capitals are the first run, and no other one has ASCII characters. -/
theorem foldRuns_eq :
    ∃ rest, foldRuns = capitalRun :: rest ∧ ∀ run ∈ rest, 128 ≤ run.first :=
  ⟨foldRuns.tail, rfl, by decide +kernel⟩

/-- No character is folded to an ASCII capital or to one before these. -/
theorem lt_fold_of_mem : ∀ run ∈ foldRuns, 90 < Int.ofNat run.first + run.shift := by
  decide +kernel

namespace FoldRun

/-- What the code points of a run are folded to. -/
theorem fold?_eq_some {run : FoldRun} {point folded : Nat} :
    run.fold? point = some folded ↔
      run.covers point = true ∧ (Int.ofNat point + run.shift).toNat = folded := by
  rw [fold?]
  split <;> simp_all

/-- A code point of a run is not in front of it. -/
theorem first_le_of_covers {run : FoldRun} {point : Nat} (h : run.covers point = true) :
    run.first ≤ point := by
  simp only [covers, Bool.and_eq_true, decide_eq_true_eq] at h
  exact h.1.1

/-- What is found for a folded form is folded to it. -/
theorem fold?_of_source? {run : FoldRun} {point folded : Nat}
    (h : run.source? folded = some point) : run.fold? point = some folded := by
  unfold source? at h
  dsimp only at h
  split at h
  · rename_i hfound
    simp only [Bool.and_eq_true, beq_iff_eq] at hfound
    rw [← Option.some.inj h]
    exact hfound.2
  · cases h

end FoldRun

/-- The ASCII capitals are folded by 32. -/
theorem fold?_capitalRun (point : Nat) :
    capitalRun.fold? point = if IsCapital point then some (point + 32) else none := by
  have hcovers : capitalRun.covers point = true ↔ IsCapital point := by
    simp only [FoldRun.covers, Bool.and_eq_true, decide_eq_true_eq, beq_iff_eq]
    simp only [capitalRun, IsCapital, Nat.mod_one, and_true]
    omega
  rw [FoldRun.fold?]
  by_cases hpoint : IsCapital point
  · rw [if_pos hpoint, if_pos (hcovers.2 hpoint)]
    rfl
  · rw [if_neg hpoint, if_neg (mt hcovers.1 hpoint)]

/-- Of the ASCII characters, the runs fold the capitals only. -/
theorem fold?_of_ascii {run : FoldRun} (hrun : run ∈ foldRuns) {point folded : Nat}
    (hpoint : point < 128) (h : run.fold? point = some folded) :
    IsCapital point ∧ folded = point + 32 := by
  obtain ⟨rest, hruns, hlarge⟩ := foldRuns_eq
  rw [hruns] at hrun
  obtain rfl | hrest := List.mem_cons.1 hrun
  · rw [fold?_capitalRun] at h
    split at h
    · rename_i hcapital
      exact ⟨hcapital, (Option.some.inj h).symm⟩
    · cases h
  · have hfirst := FoldRun.first_le_of_covers (FoldRun.fold?_eq_some.1 h).1
    have hlater := hlarge run hrest
    omega

/-- The case variants of a capital include the capital. -/
theorem source?_capitalRun {point : Nat} (h : IsCapital point) :
    capitalRun.source? (point + 32) = some point := by
  have hpoint : (Int.ofNat (point + 32) - capitalRun.shift).toNat = point := by
    simp only [capitalRun, Int.ofNat_eq_natCast]
    omega
  have hfold := (fold?_capitalRun point).trans (if_pos h)
  have hcovers := (FoldRun.fold?_eq_some.1 hfold).1
  rw [FoldRun.source?, hpoint, hfold, hcovers]
  simp

/-- An ASCII capital is folded to its small letter, and every other ASCII character to itself. -/
theorem foldPoint_of_ascii {point : Nat} (h : point < 128) :
    foldPoint point = if IsCapital point then point + 32 else point := by
  rw [foldPoint]
  split
  · rename_i hcapital
    obtain ⟨rest, hruns, -⟩ := foldRuns_eq
    rw [hruns, List.findSome?_cons, fold?_capitalRun, if_pos hcapital]
    rfl
  · rename_i hother
    have hnone : foldRuns.findSome? (·.fold? point) = none :=
      List.findSome?_eq_none_iff.2 fun run hrun => Option.eq_none_iff_forall_not_mem.2
        fun folded hfolded => hother (fold?_of_ascii hrun h hfolded).1
    rw [hnone]
    rfl

/-- Nothing is folded to an ASCII capital. -/
theorem not_isCapital_foldPoint (point : Nat) : ¬IsCapital (foldPoint point) := by
  rw [foldPoint]
  cases hfound : foldRuns.findSome? (·.fold? point) with
  | none =>
    intro hcapital
    rw [Option.getD_none] at hcapital
    obtain ⟨rest, hruns, -⟩ := foldRuns_eq
    have hfold := List.findSome?_eq_none_iff.1 hfound capitalRun (hruns ▸ List.mem_cons_self)
    rw [fold?_capitalRun, if_pos hcapital] at hfold
    cases hfold
  | some folded =>
    obtain ⟨run, hrun, hfold⟩ := List.exists_of_findSome?_eq_some hfound
    obtain ⟨hcovers, hfolded⟩ := FoldRun.fold?_eq_some.1 hfold
    have hfirst := FoldRun.first_le_of_covers hcovers
    have himage := lt_fold_of_mem run hrun
    simp only [IsCapital, Option.getD_some, Int.ofNat_eq_natCast] at himage hfolded ⊢
    omega

/-- The ASCII variants of a character are the ASCII characters with the same representative. -/
theorem mem_caseVariants_of_ascii {variant : Nat} (h : variant < 128) (point : Nat) :
    variant ∈ caseVariants point ↔ foldPoint variant = foldPoint point := by
  rw [foldPoint_of_ascii h, caseVariants, List.mem_cons, List.mem_filterMap]
  constructor
  · rintro (rfl | ⟨run, hrun, hsource⟩)
    · rw [if_neg (not_isCapital_foldPoint point)]
    · obtain ⟨hcapital, hfolded⟩ := fold?_of_ascii hrun h (FoldRun.fold?_of_source? hsource)
      rw [if_pos hcapital, hfolded]
  · split
    · rename_i hcapital
      intro hfolded
      obtain ⟨rest, hruns, -⟩ := foldRuns_eq
      refine .inr ⟨capitalRun, hruns ▸ List.mem_cons_self, ?_⟩
      rw [← hfolded, source?_capitalRun hcapital]
    · exact .inl

/-- Lower case adds 32 to the ASCII capitals and keeps every other character. -/
theorem toNat_toLower (c : Char) :
    c.toLower.toNat = if IsCapital c.toNat then c.toNat + 32 else c.toNat := by
  have hletter : (c.val ≥ 'A'.val ∧ c.val ≤ 'Z'.val) ↔ IsCapital c.toNat :=
    and_congr UInt32.le_iff_toNat_le UInt32.le_iff_toNat_le
  split
  · rename_i hcapital
    have hvalue : c.toLower.val = c.val + ('a'.val - 'A'.val) :=
      congrArg Char.val (dif_pos (hletter.2 hcapital))
    have hsum : (c.val + ('a'.val - 'A'.val)).toNat = c.val.toNat + 32 := by
      have hlast : c.val.toNat ≤ 90 := hcapital.2
      have hshift : ('a'.val - 'A'.val).toNat = 32 := rfl
      rw [UInt32.toNat_add, hshift]
      exact Nat.mod_eq_of_lt (by omega)
    exact (congrArg UInt32.toNat hvalue).trans hsum
  · rename_i hother
    exact congrArg Char.toNat (dif_neg (mt hletter.1 hother))

/-- The lower case of an ASCII character is one. -/
theorem toNat_toLower_lt {c : Char} (h : c.toNat < 128) : c.toLower.toNat < 128 := by
  rw [toNat_toLower]
  split
  · rename_i hcapital
    have := hcapital.2
    omega
  · exact h

/-- Lower case does not change the representative. -/
theorem foldPoint_toLower (c : Char) : foldPoint c.toLower.toNat = foldPoint c.toNat := by
  rw [toNat_toLower]
  split
  · rename_i hcapital
    have hsmall : ¬IsCapital (c.toNat + 32) := fun h => by
      simp only [IsCapital] at h hcapital
      omega
    have hlow : c.toNat < 96 := Nat.lt_of_le_of_lt hcapital.2 (by decide)
    rw [foldPoint_of_ascii (by omega), foldPoint_of_ascii (by omega), if_pos hcapital,
      if_neg hsmall]
  · rfl

end Unicode

namespace CharSet

/-- A character stands for the same variants as its small letter. -/
theorem variantsOf_toLower (c : Char) : variantsOf c.toLower = variantsOf c := by
  simp only [variantsOf, Unicode.caseVariants, Unicode.foldPoint_toLower]

/-- A set of case variants has both a capital and its small letter, or neither. -/
theorem contains_variantsOf_toLower (c d : Char) :
    (variantsOf c).contains d.toLower = (variantsOf c).contains d := by
  by_cases hd : Unicode.IsCapital d.toNat
  · have hascii : d.toNat < 128 := Nat.lt_of_le_of_lt hd.2 (by decide)
    rw [Bool.eq_iff_iff, contains_variantsOf, contains_variantsOf,
      Unicode.mem_caseVariants_of_ascii (Unicode.toNat_toLower_lt hascii),
      Unicode.mem_caseVariants_of_ascii hascii, Unicode.foldPoint_toLower]
  · have hkept : d.toLower = d := Char.toNat_inj.1 ((Unicode.toNat_toLower d).trans (if_neg hd))
    rw [hkept]

/-- Of two ASCII characters, one is a variant of the other when they have the same lower case. -/
theorem contains_variantsOf_of_ascii {c d : Char} (hc : c.toNat < 128) (hd : d.toNat < 128) :
    (variantsOf c).contains d = true ↔ d.toLower = c.toLower := by
  have hfold (e : Char) (he : e.toNat < 128) : Unicode.foldPoint e.toNat = e.toLower.toNat := by
    rw [Unicode.foldPoint_of_ascii he, Unicode.toNat_toLower]
  rw [contains_variantsOf, Unicode.mem_caseVariants_of_ascii hd, hfold c hc, hfold d hd,
    Char.toNat_inj]

/-- A character that is not ASCII can be a variant of a small letter with another lower case. -/
example : (variantsOf 'k').contains '\u212a' = true ∧ '\u212a'.toLower ≠ 'k' := by decide +kernel

end CharSet

/-! ### Patterns in lower case -/

namespace Wildcard

/-- A piece with its character changed. -/
def mapChar (change : Char → Char) : Wildcard → Wildcard
  | .exactly c => .exactly (change c)
  | piece => piece

/-- A piece in lower case. -/
def lower : Wildcard → Wildcard := mapChar Char.toLower

/-- Pieces with unchanged characters are the same pieces. -/
theorem map_mapChar_id (pieces : List Wildcard) : pieces.map (mapChar id) = pieces := by
  refine (List.map_congr_left fun piece _ => ?_).trans (List.map_id pieces)
  cases piece <;> rfl

/-- Lower case changes the characters of a pattern and none of its wildcards, so the pieces of the
pattern in lower case are its pieces in lower case. -/
theorem ofPattern_lower (pattern : List Char) :
    ofPattern (Text.lower pattern) = (ofPattern pattern).map lower := by
  have hplain {c : Char} {rest : List Char} (hc : c ≠ '%' ∧ c ≠ '_' ∧ c ≠ '\\')
      (ih : ofPattern (Text.lower rest) = (ofPattern rest).map lower) :
      ofPattern (Text.lower (c :: rest)) = .exactly c.toLower :: (ofPattern rest).map lower := by
    have hlower : c.toLower ≠ '%' ∧ c.toLower ≠ '_' ∧ c.toLower ≠ '\\' :=
      ⟨mt (eq_of_toLower rfl) hc.1, mt (eq_of_toLower rfl) hc.2.1, mt (eq_of_toLower rfl) hc.2.2⟩
    rw [Text.lower, List.map_cons, ofPattern_cons_of_ne hlower, ← Text.lower, ih]
  fun_induction ofPattern pattern with
  | case1 => rfl
  | case2 rest ih => exact congrArg (Wildcard.anySequence :: ·) ih
  | case3 rest ih => exact congrArg (Wildcard.anyOne :: ·) ih
  | case4 => rfl
  | case5 c rest ih => exact congrArg (Wildcard.exactly c.toLower :: ·) ih
  | case6 c rest hsequence hone hdangling hescape ih =>
    refine hplain ⟨hsequence, hone, fun hbackslash => ?_⟩ ih
    cases rest with
    | nil => exact hdangling hbackslash rfl
    | cons next rest => exact hescape next rest hbackslash rfl

/-- With case ignored, the pieces in lower case have the same expression. -/
theorem wholeRegex_map_lower (pieces : List Wildcard) :
    wholeRegex true (pieces.map lower) = wholeRegex true pieces := by
  have hpiece (piece : Wildcard) : piece.lower.regex true = piece.regex true := by
    cases piece with
    | exactly c => exact congrArg Regex.chars (CharSet.variantsOf_toLower c)
    | _ => rfl
  simp only [wholeRegex, List.map_map, Function.comp_def, hpiece]

/-- What a piece of a pattern stands for is a character of the pattern. -/
theorem mem_of_exactly_mem_ofPattern {c : Char} {pattern : List Char}
    (h : .exactly c ∈ ofPattern pattern) : c ∈ pattern := by
  fun_induction ofPattern pattern with
  | case1 => cases h
  | case2 rest ih => exact List.mem_cons_of_mem _ (ih (by simpa using h))
  | case3 rest ih => exact List.mem_cons_of_mem _ (ih (by simpa using h))
  | case4 => cases h
  | case5 d rest ih =>
    obtain hfirst | hrest := List.mem_cons.1 h
    · cases hfirst
      exact List.mem_cons_of_mem _ List.mem_cons_self
    · exact List.mem_cons_of_mem _ (List.mem_cons_of_mem _ (ih hrest))
  | case6 d rest hsequence hone hdangling hescape ih =>
    obtain hfirst | hrest := List.mem_cons.1 h
    · cases hfirst
      exact List.mem_cons_self
    · exact List.mem_cons_of_mem _ (ih hrest)

/-- One character fits the first of a text. -/
theorem fits_anyOne_cons (anyCase : Bool) (pieces : List Wildcard) (d : Char) (rest : List Char) :
    Fits anyCase (.anyOne :: pieces) (d :: rest) ↔ Fits anyCase pieces rest := by
  constructor
  · rintro ⟨_, _, htext, hrest⟩
    cases htext
    exact hrest
  · exact fun hrest => ⟨d, rest, rfl, hrest⟩

/-- A given character fits the first of a text that it stands for. -/
theorem fits_exactly_cons (anyCase : Bool) (c : Char) (pieces : List Wildcard) (d : Char)
    (rest : List Char) :
    Fits anyCase (.exactly c :: pieces) (d :: rest) ↔
      (charSet anyCase c).contains d = true ∧ Fits anyCase pieces rest := by
  constructor
  · rintro ⟨_, _, htext, hset, hrest⟩
    cases htext
    exact ⟨hset, hrest⟩
  · exact fun ⟨hset, hrest⟩ => ⟨d, rest, rfl, hset, hrest⟩

/-- Pieces fit a text when changed ones fit it in lower case, if their characters stand for the
same characters of the text. -/
theorem fits_lower_of_agree {anyCase : Bool} {change : Char → Char} {pieces : List Wildcard}
    {text : List Char}
    (h : ∀ c, .exactly c ∈ pieces → ∀ d ∈ text,
      (charSet anyCase (change c)).contains d.toLower = (charSet true c).contains d) :
    Fits anyCase (pieces.map (mapChar change)) (Text.lower text) ↔ Fits true pieces text := by
  induction pieces generalizing text with
  | nil => exact List.map_eq_nil_iff
  | cons piece pieces ih =>
    have hrest {rest : List Char} (hsub : rest ⊆ text) :
        Fits anyCase (pieces.map (mapChar change)) (Text.lower rest) ↔ Fits true pieces rest :=
      ih fun c hc d hd => h c (List.mem_cons_of_mem _ hc) d (hsub hd)
    cases piece with
    | anySequence =>
      simp only [List.map_cons, mapChar, Fits, Text.lower, List.length_map]
      refine exists_congr fun n => and_congr_right fun _ => ?_
      rw [← List.map_drop]
      exact hrest (List.drop_subset n text)
    | anyOne =>
      cases text with
      | nil => simp [mapChar, Fits, Text.lower]
      | cons d rest =>
        exact (fits_anyOne_cons ..).trans
          ((hrest (List.subset_cons_self d rest)).trans (fits_anyOne_cons ..).symm)
    | exactly c =>
      cases text with
      | nil => simp [mapChar, Fits, Text.lower]
      | cons d rest =>
        have hfirst := h c List.mem_cons_self d List.mem_cons_self
        refine (fits_exactly_cons ..).trans (Iff.trans ?_ (fits_exactly_cons ..).symm)
        rw [hfirst]
        exact and_congr_right fun _ => hrest (List.subset_cons_self d rest)

/-- With case ignored, pieces fit a text when they fit it in lower case. -/
theorem fits_lower (pieces : List Wildcard) (text : List Char) :
    Fits true pieces (Text.lower text) ↔ Fits true pieces text := by
  have hfits : Fits true (pieces.map (mapChar id)) (Text.lower text) ↔ Fits true pieces text :=
    fits_lower_of_agree fun c _ d _ => CharSet.contains_variantsOf_toLower c d
  rwa [map_mapChar_id] at hfits

/-- With case ignored, ASCII pieces fit an ASCII text when they fit it with case respected, both in
lower case. -/
theorem fits_lower_of_ascii {pattern text : List Char} (hpattern : ∀ c ∈ pattern, c.toNat < 128)
    (htext : ∀ c ∈ text, c.toNat < 128) :
    Fits false ((ofPattern pattern).map lower) (Text.lower text) ↔
      Fits true (ofPattern pattern) text := by
  refine fits_lower_of_agree fun c hc d hd => ?_
  have hascii := CharSet.contains_variantsOf_of_ascii
    (hpattern c (mem_of_exactly_mem_ofPattern hc)) (htext d hd)
  exact Bool.eq_iff_iff.2 ((CharSet.contains_single c.toLower d.toLower).trans hascii.symm)

end Wildcard

/-! ### The memory of a pattern -/

namespace Regex

/-- Adding to a number never makes it smaller. -/
theorem le_foldl_add {α : Type} (amount : α → Nat) (items : List α) (start : Nat) :
    start ≤ items.foldl (fun n item => n + amount item) start := by
  induction items generalizing start with
  | nil => exact Nat.le_refl start
  | cons item items ih => exact Nat.le_trans (Nat.le_add_right ..) (ih _)

/-- A set of characters takes at least the bytes of one state. -/
theorem stateBytes_le_setBytes (direction : Direction) (set : CharSet) :
    stateBytes ≤ setBytes direction set := by
  have hforward : stateBytes ≤ forwardSetBytes set := by
    simp only [forwardSetBytes, Nat.add_assoc]
    exact le_foldl_add _ _ _
  have hbackward : stateBytes ≤ backwardSetBytes set := by
    simp only [backwardSetBytes, stateBytes]
    omega
  have hlength (point : Nat) : 0 < (utf8Bytes point).length := by
    unfold utf8Bytes
    split
    · exact Nat.one_pos
    · split
      · exact Nat.two_pos
      · split <;> exact Nat.succ_pos _
  unfold setBytes
  split
  · exact Nat.le_mul_of_pos_right _ Nat.two_pos
  · split
    · exact Nat.le_mul_of_pos_right _ (hlength _)
    · split
      · exact Nat.le_mul_of_pos_right _ Nat.two_pos
      · cases direction with
        | forward => exact hforward
        | backward => exact hbackward
  · split
    · exact Nat.le_add_right_of_le (Nat.le_mul_of_pos_right _ Nat.two_pos)
    · cases direction with
      | forward => exact hforward
      | backward => exact hbackward

/-- An ASCII character takes the bytes of one state. -/
theorem setBytes_single_of_ascii (direction : Direction) {c : Char} (h : c.toNat < 128) :
    setBytes direction (CharSet.single c) = stateBytes := by
  have hlength : (utf8Bytes c.toNat).length = 1 := by
    rw [utf8Bytes, if_pos h]
    rfl
  have hranges : (CharSet.single c).ranges = [(c.toNat, c.toNat)] := rfl
  rw [setBytes.eq_def, hranges]
  dsimp only
  rw [if_pos (beq_self_eq_true _), hlength, Nat.mul_one]

end Regex

namespace Wildcard

open Regex

/-- The expression of pieces, up to the end of the text. -/
def endRegex (anyCase : Bool) (pieces : List Wildcard) : Regex :=
  concat (pieces.map (regex anyCase) ++ [.look .textEnd])

/-- A piece goes in front of those behind it. -/
theorem endRegex_cons (anyCase : Bool) (piece : Wildcard) (pieces : List Wildcard) :
    endRegex anyCase (piece :: pieces) = .seq (piece.regex anyCase) (endRegex anyCase pieces) := by
  cases pieces <;> rfl

/-- The expression of a whole pattern starts with the text. -/
theorem wholeRegex_eq_seq (anyCase : Bool) (pieces : List Wildcard) :
    wholeRegex anyCase pieces = .seq (.look .textStart) (endRegex anyCase pieces) := by
  cases pieces <;> rfl

/-- Pieces match characters or conditions, so none is left out of the automata. -/
theorem isVoid_regex (anyCase : Bool) (piece : Wildcard) :
    (piece.regex anyCase).isVoid = false := by
  cases piece <;> rfl

/-- The end of the text is never left out of the automata. -/
theorem isVoid_endRegex (anyCase : Bool) (pieces : List Wildcard) :
    (endRegex anyCase pieces).isVoid = false := by
  cases pieces with
  | nil => rfl
  | cons piece pieces => rw [endRegex_cons, isVoid, isVoid_regex, Bool.false_and]

/-- A match of pieces ends with the text. -/
theorem endsText_endRegex (anyCase : Bool) (pieces : List Wildcard) :
    (endRegex anyCase pieces).endsText = true := by
  induction pieces with
  | nil => rfl
  | cons piece pieces ih => rw [endRegex_cons, endsText, ih, Bool.true_or]

/-- The memory of a whole pattern is that of its anchors and of its pieces. -/
theorem footprint_wholeRegex (anyCase : Bool) (pieces : List Wildcard) :
    (wholeRegex anyCase pieces).footprint =
      max (5 * stateBytes + (endRegex anyCase pieces).bytes .forward)
        (3 * stateBytes + (endRegex anyCase pieces).bytes .backward) := by
  have hbytes (direction : Direction) :
      (Regex.seq (.look .textStart) (endRegex anyCase pieces)).bytes direction =
        stateBytes + (endRegex anyCase pieces).bytes direction := by
    rw [bytes, isVoid_endRegex]
    rfl
  have hends : (Regex.seq (.look .textStart) (endRegex anyCase pieces)).endsText = true := by
    rw [endsText, endsText_endRegex, Bool.true_or]
  have hstarts : (Regex.seq (.look .textStart) (endRegex anyCase pieces)).startsText = true := rfl
  have hanchored : anywhereBytes true = stateBytes := rfl
  have htexts : (Regex.seq (.look .textStart) (endRegex anyCase pieces)).isTexts = false := rfl
  rw [wholeRegex_eq_seq, footprint, htexts, hbytes, hbytes, hends, hstarts, hanchored]
  simp only [Bool.false_eq_true, if_false]
  congr 1 <;> omega

/-- In lower case and with case respected, ASCII pieces take no more bytes than with case
ignored. -/
theorem bytes_endRegex_lower_le (direction : Direction) {pieces : List Wildcard}
    (h : ∀ c, .exactly c ∈ pieces → c.toNat < 128) :
    (endRegex false (pieces.map lower)).bytes direction ≤
      (endRegex true pieces).bytes direction := by
  have hpiece (piece : Wildcard) (hpiece : piece ∈ pieces) :
      (piece.lower.regex false).bytes direction ≤ (piece.regex true).bytes direction := by
    cases piece with
    | exactly c =>
      have hlower := Unicode.toNat_toLower_lt (h c hpiece)
      change setBytes direction (CharSet.single c.toLower) ≤
        setBytes direction (CharSet.variantsOf c)
      rw [setBytes_single_of_ascii direction hlower]
      exact stateBytes_le_setBytes direction _
    | _ => exact Nat.le_refl _
  clear h
  induction pieces with
  | nil => exact Nat.le_refl _
  | cons piece pieces ih =>
    have hfirst := hpiece piece List.mem_cons_self
    have hrest := ih fun other hother => hpiece other (List.mem_cons_of_mem _ hother)
    rw [List.map_cons, endRegex_cons, endRegex_cons, bytes, bytes]
    simp only [isVoid_regex, isVoid_endRegex, Bool.false_eq_true, if_false]
    exact Nat.add_le_add hfirst hrest

/-- In lower case and with case respected, an ASCII pattern takes no more memory than with case
ignored. -/
theorem footprint_wholeRegex_lower_le {pieces : List Wildcard}
    (h : ∀ c, .exactly c ∈ pieces → c.toNat < 128) :
    (wholeRegex false (pieces.map lower)).footprint ≤ (wholeRegex true pieces).footprint := by
  have hforward := bytes_endRegex_lower_le .forward h
  have hbackward := bytes_endRegex_lower_le .backward h
  rw [footprint_wholeRegex, footprint_wholeRegex]
  omega

end Wildcard

/-! ### Matching -/

/-- With case ignored, the case of ASCII letters changes nothing. All patterns with the letters of
one that is not too large are spelled as regular expressions that are read back as one and the same,
also where a letter follows a backslash, and texts with the same letters have the same result for
each of them. When text and pattern are ASCII, this is the result of matching both in lower case
with case respected. -/
theorem matchesWildcards_ignores_case (settings : MatchSettings)
    (hcase : settings.anyCaseLike = true) (text pattern : String)
    (hfits : (Wildcard.wholeRegex true (Wildcard.ofPattern pattern.toList)).footprint ≤
      settings.sizeLimit) :
    ∃ found, matchesWildcards settings text pattern = .ok found ∧
      (∀ otherText otherPattern : String,
        Text.lower otherText.toList = Text.lower text.toList →
        Text.lower otherPattern.toList = Text.lower pattern.toList →
          Regex.ofPattern? (String.ofList
              (Wildcard.wholeSpelling true (Wildcard.ofPattern otherPattern.toList))) =
            some (Wildcard.wholeRegex true (Wildcard.ofPattern pattern.toList)) ∧
          matchesWildcards settings otherText otherPattern = .ok found) ∧
      ((∀ c ∈ text.toList, c.toNat < 128) → (∀ c ∈ pattern.toList, c.toNat < 128) →
        matchesWildcards { settings with anyCaseLike := false }
          (String.ofList (Text.lower text.toList)) (String.ofList (Text.lower pattern.toList)) =
            .ok found) := by
  have hmatches (otherText otherPattern : String)
      (hsame : Wildcard.wholeRegex true (Wildcard.ofPattern otherPattern.toList) =
        Wildcard.wholeRegex true (Wildcard.ofPattern pattern.toList)) :
      matchesWildcards settings otherText otherPattern =
        .ok ((Wildcard.wholeRegex true (Wildcard.ofPattern pattern.toList)).occursIn
          otherText.toList) := by
    rw [matchesWildcards, hcase, hsame]
    exact if_pos hfits
  refine ⟨_, hmatches text pattern rfl, fun otherText otherPattern htext hpattern => ?_,
    fun htext hpattern => ?_⟩
  · have hsame : Wildcard.wholeRegex true (Wildcard.ofPattern otherPattern.toList) =
        Wildcard.wholeRegex true (Wildcard.ofPattern pattern.toList) := by
      rw [← Wildcard.wholeRegex_map_lower, ← Wildcard.ofPattern_lower, hpattern,
        Wildcard.ofPattern_lower, Wildcard.wholeRegex_map_lower]
    refine ⟨(Wildcard.ofPattern?_wholeSpelling true _).trans (congrArg some hsame), ?_⟩
    rw [hmatches otherText otherPattern hsame]
    refine congrArg Except.ok (Bool.eq_iff_iff.2 ?_)
    rw [Wildcard.occursIn_wholeRegex, Wildcard.occursIn_wholeRegex, ← Wildcard.fits_lower, htext,
      Wildcard.fits_lower]
  · have hlimit : (Wildcard.wholeRegex false
        (Wildcard.ofPattern (Text.lower pattern.toList))).footprint ≤ settings.sizeLimit := by
      rw [Wildcard.ofPattern_lower]
      exact Nat.le_trans (Wildcard.footprint_wholeRegex_lower_le fun c hc =>
        hpattern c (Wildcard.mem_of_exactly_mem_ofPattern hc)) hfits
    rw [matchesWildcards, String.toList_ofList, String.toList_ofList]
    refine (if_pos hlimit).trans (congrArg Except.ok (Bool.eq_iff_iff.2 ?_))
    rw [Wildcard.occursIn_wholeRegex, Wildcard.occursIn_wholeRegex, Wildcard.ofPattern_lower]
    exact Wildcard.fits_lower_of_ascii hpattern htext

/-- Capitals and small letters are matched alike in a text and in a pattern with a letter behind a
backslash, as both are in lower case. -/
theorem matchesWildcards_ignores_case_behind_backslash :
    (Wildcard.wholeRegex true (Wildcard.ofPattern "w_d%\\D".toList)).footprint ≤ 1048576 ∧
      Regex.ofPattern? (String.ofList
          (Wildcard.wholeSpelling true (Wildcard.ofPattern "W_D%\\d".toList))) =
        some (Wildcard.wholeRegex true (Wildcard.ofPattern "w_d%\\D".toList)) ∧
      matchesWildcards ⟨true, 1048576⟩ "Widget id" "w_d%\\D" = .ok true ∧
      matchesWildcards ⟨true, 1048576⟩ "wIDGET ID" "W_D%\\d" = .ok true ∧
      matchesWildcards ⟨false, 1048576⟩ "widget id" "w_d%\\d" = .ok true := by
  have hfits : (Wildcard.wholeRegex true (Wildcard.ofPattern "w_d%\\D".toList)).footprint ≤
      1048576 := by decide +kernel
  obtain ⟨found, hfound, hothers, hlower⟩ :=
    matchesWildcards_ignores_case ⟨true, 1048576⟩ rfl "Widget id" "w_d%\\D" hfits
  obtain ⟨hread, hother⟩ := hothers "wIDGET ID" "W_D%\\d" (by decide +kernel) (by decide +kernel)
  have hsmall : matchesWildcards ⟨false, 1048576⟩ "widget id" "w_d%\\d" = .ok found :=
    hlower (by simp) (by simp)
  have hmatches : matchesWildcards ⟨false, 1048576⟩ "widget id" "w_d%\\d" = .ok true := by
    have hlimit : (Wildcard.wholeRegex false (Wildcard.ofPattern "w_d%\\d".toList)).footprint ≤
        1048576 := by decide +kernel
    have hoccurs : (Wildcard.wholeRegex false (Wildcard.ofPattern "w_d%\\d".toList)).occursIn
        "widget id".toList = true := by decide +kernel
    rw [matchesWildcards, if_pos hlimit, hoccurs]
  obtain rfl := Except.ok.inj (hsmall.symm.trans hmatches)
  exact ⟨hfits, hread, hfound, hother, hmatches⟩

end ScopeQuery
