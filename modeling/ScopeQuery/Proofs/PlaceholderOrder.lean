import Mathlib.Data.List.Induction
import Mathlib.Data.List.Nodup
import Mathlib.Data.List.Shortlex
import Mathlib.Data.Set.Function
import ScopeQuery.Proofs.ParameterSubstitution

/-!
# The order of placeholder names

Every word of lower-case letters is the name of one index, and the indices follow the
words in their order: the shorter word first, words of one length by their letters. The
last letter of a name is its last digit and the letters before it are the name of the
carry, so both facts go from the letters before the last one to the whole name.
-/

namespace ScopeQuery

/-- Whether a character can stand in a name. -/
def IsNameLetter (c : Char) : Prop := 'a' ≤ c ∧ c ≤ 'z'

/-- Whether a text can be the name of a parameter. -/
def IsPlaceholderName (name : String) : Prop := name ≠ "" ∧ ∀ c ∈ name.toList, IsNameLetter c

/-- Names in the order of their lengths, those of one length in the order of their letters. -/
def NamedBefore (name other : String) : Prop :=
  List.Shortlex (· < ·) name.toList other.toList

/-- Of two names one at most stands before the other. -/
theorem NamedBefore.asymm {name other : String} (h : NamedBefore name other) :
    ¬NamedBefore other name :=
  Std.Asymm.asymm (r := List.Shortlex (· < ·)) _ _ h

/-! ### Letters -/

/-- The letters of digits are letters of names. -/
theorem isNameLetter_placeholderLetter {digit : Nat} (h : digit < 26) :
    IsNameLetter (placeholderLetter digit) := by
  have hletters : ∀ i : Fin 26, 'a' ≤ placeholderLetter i ∧ placeholderLetter i ≤ 'z' := by decide
  exact hletters ⟨digit, h⟩

/-- The letters of digits have the order of the digits. -/
theorem placeholderLetter_lt {m n : Nat} (hn : n < 26) (h : m < n) :
    placeholderLetter m < placeholderLetter n := by
  have hletters : ∀ i : Fin 26, ∀ j : Fin 26,
      i < j → placeholderLetter i < placeholderLetter j := by decide
  exact hletters ⟨m, Nat.lt_trans h hn⟩ ⟨n, hn⟩ h

/-- Every letter of names is the letter of a digit. -/
theorem exists_placeholderLetter {c : Char} (h : IsNameLetter c) :
    ∃ digit < 26, placeholderLetter digit = c := by
  obtain ⟨hfirst, hlast⟩ := h
  have hlower : 97 ≤ c.toNat := hfirst
  have hupper : c.toNat ≤ 122 := hlast
  refine ⟨c.toNat - 97, by omega, ?_⟩
  rw [placeholderLetter, show 'a'.toNat = 97 from rfl, Nat.add_sub_cancel' hlower,
    Char.ofNat_toNat]

/-! ### Names -/

/-- The letters of a number above zero: those of its carry and that of its last digit. -/
theorem placeholderLetters_carry (carry : Nat) {digit : Nat} (h : digit < 26) :
    placeholderLetters (26 * carry + digit + 1) =
      placeholderLetters carry ++ [placeholderLetter digit] := by
  rw [placeholderLetters, show (26 * carry + digit) / 26 = carry by omega,
    show (26 * carry + digit) % 26 = digit by omega]

/-- A number above zero has a carry and a last digit. -/
theorem exists_carry {n : Nat} (h : 0 < n) :
    ∃ carry digit, digit < 26 ∧ n = 26 * carry + digit + 1 :=
  ⟨(n - 1) / 26, (n - 1) % 26, Nat.mod_lt _ (by decide), by omega⟩

/-- Only letters of names are used. -/
theorem isNameLetter_of_mem (n : Nat) : ∀ c ∈ placeholderLetters n, IsNameLetter c := by
  induction n using Nat.strong_induction_on with
  | _ n ih =>
    obtain rfl | hpos := Nat.eq_zero_or_pos n
    · simp [placeholderLetters]
    · obtain ⟨carry, digit, hdigit, rfl⟩ := exists_carry hpos
      intro c hc
      rw [placeholderLetters_carry carry hdigit, List.mem_append, List.mem_singleton] at hc
      obtain hcarry | rfl := hc
      · exact ih carry (by omega) c hcarry
      · exact isNameLetter_placeholderLetter hdigit

/-- Every word of letters is that of a number. -/
theorem exists_placeholderLetters (word : List Char) (h : ∀ c ∈ word, IsNameLetter c) :
    ∃ n, placeholderLetters n = word := by
  induction word using List.reverseRecOn with
  | nil => exact ⟨0, by simp [placeholderLetters]⟩
  | append_singleton word last ih =>
    obtain ⟨carry, hcarry⟩ := ih fun c hc => h c (by simp [hc])
    obtain ⟨digit, hdigit, hlast⟩ := exists_placeholderLetter (h last (by simp))
    exact ⟨26 * carry + digit + 1, by rw [placeholderLetters_carry carry hdigit, hcarry, hlast]⟩

/-- Words in order stay in order when a letter is added to each. -/
theorem shortlex_concat {word other : List Char} (h : List.Shortlex (· < ·) word other)
    (last otherLast : Char) :
    List.Shortlex (· < ·) (word ++ [last]) (other ++ [otherLast]) := by
  obtain hshorter | ⟨hlength, hlex⟩ := List.shortlex_def.1 h
  · exact .of_length_lt (by simpa using hshorter)
  · refine .of_lex (by simpa using hlength) ?_
    -- Words of one length differ in front of the added letters.
    induction hlex with
    | nil => simp at hlength
    | cons hrest ih =>
      have htail := Nat.succ.inj hlength
      exact .cons (ih (.of_lex htail hrest) htail)
    | rel hletter => exact .rel hletter

/-- Greater numbers have later words. -/
theorem placeholderLetters_shortlex {m n : Nat} (h : m < n) :
    List.Shortlex (· < ·) (placeholderLetters m) (placeholderLetters n) := by
  induction n using Nat.strong_induction_on generalizing m with
  | _ n ih =>
    obtain ⟨carry, digit, hdigit, rfl⟩ := exists_carry (Nat.zero_lt_of_lt h)
    obtain rfl | hpos := Nat.eq_zero_or_pos m
    · rw [placeholderLetters_carry carry hdigit, placeholderLetters]
      exact .of_length_lt (by simp)
    · obtain ⟨before, last, hlast, rfl⟩ := exists_carry hpos
      rw [placeholderLetters_carry carry hdigit, placeholderLetters_carry before hlast]
      obtain hcarry | rfl : before < carry ∨ before = carry := by omega
      · exact shortlex_concat (ih carry (by omega) hcarry) _ _
      · have hletter := placeholderLetter_lt hdigit (show last < digit by omega)
        exact ((List.shortlex_singleton_iff _ _).2 hletter).append_left _

/-- The letters of a name. -/
theorem placeholderName_toList (index : Nat) :
    (placeholderName index).toList = placeholderLetters (index + 1) := by
  rw [placeholderName, String.toList_ofList]

/-- A name is a word of letters. -/
theorem isPlaceholderName_placeholderName (index : Nat) :
    IsPlaceholderName (placeholderName index) := by
  refine ⟨fun hempty => ?_, fun c hc => ?_⟩
  · have hletters := placeholderName_toList index
    rw [hempty, placeholderLetters] at hletters
    simp at hletters
  · rw [placeholderName_toList] at hc
    exact isNameLetter_of_mem _ c hc

/-- Every word of letters is a name. -/
theorem exists_placeholderName {name : String} (h : IsPlaceholderName name) :
    ∃ index, placeholderName index = name := by
  obtain ⟨hne, hletters⟩ := h
  obtain ⟨n, hn⟩ := exists_placeholderLetters name.toList hletters
  cases n with
  | zero =>
    rw [placeholderLetters] at hn
    exact absurd (String.toList_eq_nil_iff.1 hn.symm) hne
  | succ index => exact ⟨index, by rw [placeholderName, hn, String.ofList_toList]⟩

/-- Greater indices have later names. -/
theorem namedBefore_of_lt {i j : Nat} (h : i < j) :
    NamedBefore (placeholderName i) (placeholderName j) := by
  rw [NamedBefore, placeholderName_toList, placeholderName_toList]
  exact placeholderLetters_shortlex (by omega)

/-- Indices have the order of their names. -/
theorem lt_iff_namedBefore (i j : Nat) :
    i < j ↔ NamedBefore (placeholderName i) (placeholderName j) := by
  refine ⟨namedBefore_of_lt, fun h => ?_⟩
  obtain hlt | rfl | hgt := Nat.lt_trichotomy i j
  · exact hlt
  · exact absurd h h.asymm
  · exact absurd h (namedBefore_of_lt hgt).asymm

/-! ### Parameters -/

/-- The node as a query: an expression in the dialect, a statement in its own. -/
def RenderedNode.render : RenderedNode → Dialect → Except QueryError RenderedQuery
  | .expression e, dialect => e.render dialect
  | .statement s, _ => s.render

/-- The parameters of values are named by the indices from the first on. -/
theorem boundParams_names (index : Nat) (holes : List (Value × String)) :
    (boundParams index holes).map (·.1) =
      (List.range' index holes.length).map placeholderName := by
  induction holes generalizing index with
  | nil => rfl
  | cons hole rest ih =>
    obtain ⟨value, text⟩ := hole
    rw [boundParams_cons, List.map_cons, ih, List.length_cons, List.range'_succ, List.map_cons]

/-- A finished rendering has numbered its parameters from zero on. -/
theorem Settled.params_names {dialect : Dialect} {render : Session → Rendering}
    (h : Settled dialect render) {sql : String} {session : Session}
    (hrender : render (.bound dialect) = .ok (sql, session)) :
    session.params.map (·.1) = (List.range session.params.length).map placeholderName := by
  obtain ⟨error, herror⟩ | ⟨pieces, hpieces⟩ := h
  · rw [herror _ rfl] at hrender
    cases hrender
  · rw [hpieces _ rfl, Session.bound, Session.write_bound] at hrender
    obtain ⟨-, rfl⟩ := Prod.mk.inj (Except.ok.inj hrender)
    have hnames := boundParams_names 0 (valueHoles pieces)
    have hlength : (boundParams 0 (valueHoles pieces)).length = (valueHoles pieces).length := by
      rw [boundParams, List.length_mapIdx]
    rw [List.range_eq_range', List.nil_append, List.length_nil, hlength]
    exact hnames

/-- The parameters of a query are numbered from zero on. -/
theorem RenderedNode.render_params_names {node : RenderedNode} {dialect : Dialect}
    {query : RenderedQuery} (h : node.render dialect = .ok query) :
    query.params.map (·.1) = (List.range query.params.length).map placeholderName := by
  cases node with
  | expression e =>
    rw [render, Expression.render] at h
    split at h
    · rename_i sql session hrender
      obtain rfl := Except.ok.inj h
      exact (e.renderInto_settled dialect).params_names hrender
    · cases h
  | statement s =>
    rw [render, Statement.render] at h
    split at h
    · rename_i sql session hrender
      obtain rfl := Except.ok.inj h
      exact (s.renderInto_settled s.dialect).params_names hrender
    · cases h

/-- Placeholder names number the words of lower-case letters. Every index has a word for
its name, no two indices one name, and every word is a name; indices stand in the order of
their names, the shorter name first and names of one length by their letters. The parameters
of a rendered expression or statement are named by the indices from zero on, so no two of
them have one name. -/
theorem placeholderName_numbers :
    Set.BijOn placeholderName Set.univ {name | IsPlaceholderName name} ∧
    (∀ i j, i < j ↔ NamedBefore (placeholderName i) (placeholderName j)) ∧
    ∀ (node : RenderedNode) (dialect : Dialect) (query : RenderedQuery),
      node.render dialect = .ok query →
      query.params.map (·.1) = (List.range query.params.length).map placeholderName ∧
      (query.params.map (·.1)).Nodup := by
  have hinjective : Function.Injective placeholderName := fun _ _ => placeholderName_injective
  refine ⟨⟨fun index _ => isPlaceholderName_placeholderName index, hinjective.injOn,
    fun name hname => ?_⟩, lt_iff_namedBefore, fun node dialect query hquery => ?_⟩
  · obtain ⟨index, hindex⟩ := exists_placeholderName hname
    exact ⟨index, trivial, hindex⟩
  · have hnames := node.render_params_names hquery
    refine ⟨hnames, ?_⟩
    rw [hnames]
    exact List.Nodup.map hinjective List.nodup_range

end ScopeQuery
