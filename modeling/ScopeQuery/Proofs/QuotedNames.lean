import Mathlib.Data.Set.Function
import ScopeQuery.Sql.Identifier
import ScopeQuery.Value.Text

/-!
# Reading quoted names back

A database reads a quoted text from its opening quote, takes a doubled quote for one that
belongs to the text, and stops at the first quote that is not doubled. What the library quotes
is read back whole: the reader stops at the last character, whatever the text holds, and a
quoted path gives the stretches between the points of its name.
-/

namespace ScopeQuery

/-! ### The reader of quoted texts -/

namespace Text

/-- What stands in front of the first quote that is not doubled, each doubled quote read as one,
and what stands behind that quote. A text in which every quote is doubled has no end. -/
def unquoteBody? (quote : Char) : List Char → Option (List Char × List Char)
  | [] => none
  | [c] => if c = quote then some ([], []) else none
  | c :: next :: rest =>
    if c = quote then
      if next = quote then (unquoteBody? quote rest).map (Prod.map (quote :: ·) id)
      else some ([], next :: rest)
    else (unquoteBody? quote (next :: rest)).map (Prod.map (c :: ·) id)

/-- The contents of the quoted text at the front of a text, and what stands behind its closing
quote. -/
def unquote? (quote : Char) : List Char → Option (List Char × List Char)
  | [] => none
  | c :: rest => if c = quote then unquoteBody? quote rest else none

variable {quote : Char}

/-- The reader goes over a character that is no quote. -/
theorem unquoteBody?_plain {c : Char} (h : c ≠ quote) (rest : List Char) :
    unquoteBody? quote (c :: rest) = (unquoteBody? quote rest).map (Prod.map (c :: ·) id) := by
  cases rest with
  | nil => simp [unquoteBody?, h]
  | cons next rest => simp [unquoteBody?, h]

/-- The reader stops at a quote that no other one follows. -/
theorem unquoteBody?_closing {after : List Char} (h : after.head? ≠ some quote) :
    unquoteBody? quote (quote :: after) = some ([], after) := by
  cases after with
  | nil => simp [unquoteBody?]
  | cons next rest =>
    have hnext : next ≠ quote := by simpa using h
    simp [unquoteBody?, hnext]

/-- Doubled contents are read up to the quote behind them. -/
theorem unquoteBody?_doubled (contents : List Char) {after : List Char}
    (h : after.head? ≠ some quote) :
    unquoteBody? quote (doubled quote contents ++ quote :: after) = some (contents, after) := by
  induction contents with
  | nil => exact unquoteBody?_closing h
  | cons c contents ih =>
    rw [doubled]
    by_cases hquote : c = quote
    · rw [if_pos hquote, List.cons_append, List.cons_append, unquoteBody?, if_pos rfl, if_pos rfl,
        ih, hquote]
      rfl
    · rw [if_neg hquote, List.cons_append, unquoteBody?_plain hquote, ih]
      rfl

/-- What the reader finds is what it was given: doubled contents, a closing quote, and a rest
that does not begin with another quote. -/
theorem eq_of_unquoteBody? {text contents after : List Char}
    (h : unquoteBody? quote text = some (contents, after)) :
    text = doubled quote contents ++ quote :: after ∧ after.head? ≠ some quote := by
  fun_induction unquoteBody? quote text generalizing contents after with
  | case1 => cases h
  | case2 =>
    obtain ⟨rfl, rfl⟩ : [] = contents ∧ [] = after := by simpa using h
    simp [doubled]
  | case3 => cases h
  | case4 rest ih =>
    obtain ⟨⟨found, behind⟩, hfound, hpair⟩ := Option.map_eq_some_iff.mp h
    obtain ⟨rfl, rfl⟩ : quote :: found = contents ∧ behind = after := by simpa using hpair
    obtain ⟨rfl, hbehind⟩ := ih hfound
    exact ⟨by simp [doubled], hbehind⟩
  | case5 next rest hnext =>
    obtain ⟨rfl, rfl⟩ : [] = contents ∧ next :: rest = after := by simpa using h
    exact ⟨rfl, by simpa using hnext⟩
  | case6 c next rest hc ih =>
    obtain ⟨⟨found, behind⟩, hfound, hpair⟩ := Option.map_eq_some_iff.mp h
    obtain ⟨rfl, rfl⟩ : c :: found = contents ∧ behind = after := by simpa using hpair
    obtain ⟨htext, hbehind⟩ := ih hfound
    exact ⟨by rw [doubled, if_neg hc, List.cons_append, htext], hbehind⟩

/-- The characters of a quoted text. -/
theorem quoted_toList (text : String) :
    (quoted quote text).toList = quote :: (doubled quote text.toList ++ [quote]) := by
  simp [quoted]

/-- The reader finds a text exactly where it stands quoted and no other quote follows. -/
theorem unquote?_eq_some_iff {text after : List Char} {contents : String} :
    unquote? quote text = some (contents.toList, after) ↔
      text = (quoted quote contents).toList ++ after ∧ after.head? ≠ some quote := by
  constructor
  · intro h
    cases text with
    | nil => cases h
    | cons c rest =>
      by_cases hc : c = quote
      · rw [unquote?, if_pos hc] at h
        obtain ⟨rfl, hafter⟩ := eq_of_unquoteBody? h
        exact ⟨by simp [quoted_toList, hc], hafter⟩
      · rw [unquote?, if_neg hc] at h
        cases h
  · rintro ⟨rfl, hafter⟩
    rw [quoted_toList, List.cons_append, unquote?, if_pos rfl, List.append_assoc]
    exact unquoteBody?_doubled contents.toList hafter

/-- A quoted text is read back whole. -/
theorem unquote?_quoted (quote : Char) (text : String) :
    unquote? quote (quoted quote text).toList = some (text.toList, []) :=
  unquote?_eq_some_iff.mpr ⟨(List.append_nil _).symm, by simp⟩

/-- Different texts are quoted differently. -/
theorem quoted_injective (quote : Char) : Function.Injective (quoted quote) := by
  intro text other h
  have hread : some (text.toList, []) = some (other.toList, ([] : List Char)) := by
    rw [← unquote?_quoted quote text, h, unquote?_quoted]
  exact String.toList_injective (by simpa using hread)

/-- Joining texts joins their characters. -/
theorem joined_toList (separator : String) (texts : List String) :
    (joined separator texts).toList =
      separator.toList.intercalate (texts.map String.toList) := by
  fun_induction joined separator texts with
  | case1 => rfl
  | case2 text => simp
  | case3 text next rest ih => simp [ih, List.intercalate_cons_cons]

end Text

/-! ### The reader of paths -/

/-- One step of a path. -/
inductive PathItem where
  /-- A bare star. -/
  | star
  /-- A quoted name. -/
  | name (contents : List Char)
deriving DecidableEq

namespace PathItem

/-- The step that a stretch of a name is written as. -/
def ofSegment (segment : List Char) : PathItem :=
  if segment = ['*'] then .star else .name segment

/-- The text that a step stands for. -/
def contents : PathItem → List Char
  | .star => ['*']
  | .name contents => contents

/-- A stretch stands for itself. -/
theorem contents_ofSegment (segment : List Char) : (ofSegment segment).contents = segment := by
  unfold ofSegment
  split <;> simp_all [contents]

/-- The steps of a name stand for its stretches. -/
theorem map_contents_ofSegment (segments : List (List Char)) :
    (segments.map ofSegment).map contents = segments := by
  rw [List.map_map, show contents ∘ ofSegment = id from funext contents_ofSegment, List.map_id]

end PathItem

/-- The step at the front of a text: a star, or a quoted name. -/
def readPathItem? (quote : Char) : List Char → Option (PathItem × List Char)
  | '*' :: rest => some (.star, rest)
  | text => (Text.unquote? quote text).map (Prod.map .name id)

/-- Reading a step uses up characters. -/
theorem readPathItem?_length {quote : Char} {text rest : List Char} {item : PathItem}
    (h : readPathItem? quote text = some (item, rest)) : rest.length < text.length := by
  unfold readPathItem? at h
  split at h
  · obtain ⟨-, rfl⟩ : PathItem.star = item ∧ _ = rest := by simpa using h
    exact Nat.lt_succ_self _
  · obtain ⟨⟨contents, after⟩, hread, hpair⟩ := Option.map_eq_some_iff.mp h
    obtain ⟨-, rfl⟩ : PathItem.name contents = item ∧ after = rest := by simpa using hpair
    have hquoted : Text.unquote? quote text =
        some ((String.ofList contents).toList, after) := by
      rw [String.toList_ofList, hread]
    obtain ⟨rfl, -⟩ := Text.unquote?_eq_some_iff.mp hquoted
    rw [List.length_append, Text.quoted_toList, List.length_cons]
    omega

/-- The steps of a path, with points between them. -/
def readPath? (quote : Char) (text : List Char) : Option (List PathItem) :=
  match _hitem : readPathItem? quote text with
  | some (item, []) => some [item]
  | some (item, '.' :: rest) => (readPath? quote rest).map (item :: ·)
  | _ => none
termination_by text.length
decreasing_by
  have hlength := readPathItem?_length _hitem
  rw [List.length_cons] at hlength
  omega

/-- A path of one step. -/
theorem readPath?_last {quote : Char} {text : List Char} {item : PathItem}
    (h : readPathItem? quote text = some (item, [])) : readPath? quote text = some [item] := by
  rw [readPath?]
  split <;> simp_all

/-- A step in front of a point and a path. -/
theorem readPath?_point {quote : Char} {text rest : List Char} {item : PathItem}
    (h : readPathItem? quote text = some (item, '.' :: rest)) :
    readPath? quote text = (readPath? quote rest).map (item :: ·) := by
  rw [readPath?]
  split <;> simp_all

/-! ### Names read back -/

/-- The quote of a dialect is neither the star nor the point. -/
theorem Dialect.identifierQuote_ne (dialect : Dialect) :
    dialect.identifierQuote ≠ '*' ∧ dialect.identifierQuote ≠ '.' := by
  cases dialect <;> decide

/-- A quoted stretch of a name is read back as its step, with anything but a quote behind it. -/
theorem readPathItem?_quoteSegment (dialect : Dialect) (segment : List Char) {after : List Char}
    (h : after.head? ≠ some dialect.identifierQuote) :
    readPathItem? dialect.identifierQuote
        ((quoteSegment dialect (String.ofList segment)).toList ++ after) =
      some (.ofSegment segment, after) := by
  have hstar : String.ofList segment = "*" ↔ segment = ['*'] := by
    rw [← String.toList_inj, String.toList_ofList]
    rfl
  simp only [quoteSegment, PathItem.ofSegment, hstar]
  by_cases hsegment : segment = ['*']
  · rw [if_pos hsegment, if_pos hsegment, hsegment]
    rfl
  · have hread := Text.unquote?_eq_some_iff.mpr
      ⟨(rfl : (quoteIdentifier dialect (String.ofList segment)).toList ++ after = _), h⟩
    rw [if_neg hsegment, if_neg hsegment, readPathItem?, hread, String.toList_ofList]
    · rfl
    · intro rest htext
      rw [quoteIdentifier, Text.quoted_toList, List.cons_append, List.cons.injEq] at htext
      exact dialect.identifierQuote_ne.1 htext.1

/-- Quoted stretches with points between them are read back as their steps. -/
theorem readPath?_quoteSegments (dialect : Dialect) {segments : List (List Char)}
    (h : segments ≠ []) :
    readPath? dialect.identifierQuote (Text.joined "." (segments.map fun segment =>
        quoteSegment dialect (String.ofList segment))).toList =
      some (segments.map .ofSegment) := by
  rw [Text.joined_toList]
  induction segments with
  | nil => exact absurd rfl h
  | cons segment rest ih =>
    cases rest with
    | nil =>
      have hend : ([] : List Char).head? ≠ some dialect.identifierQuote := by simp
      have hitem := readPathItem?_quoteSegment dialect segment hend
      rw [List.append_nil] at hitem
      simpa using readPath?_last hitem
    | cons next rest =>
      rw [List.map_cons, List.map_cons, List.map_cons, List.map_cons, List.intercalate_cons_cons,
        List.append_assoc]
      have hpoint (after : List Char) : ('.' :: after).head? ≠ some dialect.identifierQuote := by
        simpa using dialect.identifierQuote_ne.2.symm
      exact (readPath?_point (readPathItem?_quoteSegment dialect segment (hpoint _))).trans
        (congrArg (Option.map _) (ih (List.cons_ne_nil next rest)))

section PlainPaths

variable {dialect : Dialect}

/-- A name that soft quoting writes as a path: it is not the star alone, and has neither an
opening parenthesis nor a quote in it. -/
def IsPlainPath (dialect : Dialect) (name : String) : Prop :=
  name ≠ "*" ∧ '(' ∉ name.toList ∧ '"' ∉ name.toList ∧ dialect.identifierQuote ∉ name.toList

/-- A name written as a path does not look like an expression. -/
theorem IsPlainPath.looksLikeExpression_eq_false {name : String} (h : IsPlainPath dialect name) :
    looksLikeExpression dialect name = false := by
  obtain ⟨hstar, hopen, hdouble, hquote⟩ := h
  have hany : ∀ c ∈ name.toList, ¬ (c = '(' ∨ c = dialect.identifierQuote ∨ c = '"') := by
    rintro c hc (rfl | rfl | rfl) <;> contradiction
  simpa [looksLikeExpression, hstar, or_assoc] using hany

/-- A name written as a path is read back as the stretches between its points. -/
theorem IsPlainPath.readPath?_softIdentifier {name : String} (h : IsPlainPath dialect name) :
    readPath? dialect.identifierQuote (softIdentifier dialect name).toList =
      some ((name.toList.splitOn '.').map .ofSegment) := by
  rw [softIdentifier, h.looksLikeExpression_eq_false]
  exact readPath?_quoteSegments dialect (List.splitOn_ne_nil _ _)

/-- Different names are written as different paths. -/
theorem softIdentifier_injOn (dialect : Dialect) :
    Set.InjOn (softIdentifier dialect) {name | IsPlainPath dialect name} := by
  intro name hname other hother h
  have hitems : some ((name.toList.splitOn '.').map .ofSegment) =
      some ((other.toList.splitOn '.').map PathItem.ofSegment) := by
    rw [← hname.readPath?_softIdentifier, h, hother.readPath?_softIdentifier]
  have hsegments : name.toList.splitOn '.' = other.toList.splitOn '.' := by
    rw [← PathItem.map_contents_ofSegment (name.toList.splitOn '.'), Option.some.inj hitems,
      PathItem.map_contents_ofSegment]
  have hlist : name.toList = other.toList := by
    have hjoined (text : List Char) : ['.'].intercalate (text.splitOn '.') = text :=
      List.intercalate_splitOn '.'
    rw [← hjoined name.toList, hsegments, hjoined]
  exact String.toList_injective hlist

end PlainPaths

/-- Quoting loses nothing and cannot be left early. In every dialect a quoted identifier, and the
literal of any text, is read from its opening quote up to its last character and gives the text
back; a name written as a path is read as quoted identifiers and bare stars with points between
them, which stand for the stretches between the points of the name; so different names are
written differently. -/
theorem quotedNames_read_back (dialect : Dialect) :
    (∀ name : String, Text.unquote? dialect.identifierQuote (quoteIdentifier dialect name).toList =
      some (name.toList, [])) ∧
    (∀ text : String, Text.unquote? '\'' (Value.string text).literal.toList =
      some (text.toList, [])) ∧
    (∀ name : String, IsPlainPath dialect name →
      ∃ items, readPath? dialect.identifierQuote (softIdentifier dialect name).toList = some items ∧
        items.map PathItem.contents = name.toList.splitOn '.') ∧
    Function.Injective (quoteIdentifier dialect) ∧
    Function.Injective (fun text => (Value.string text).literal) ∧
    Set.InjOn (softIdentifier dialect) {name | IsPlainPath dialect name} := by
  refine ⟨Text.unquote?_quoted _, Text.unquote?_quoted _, fun name hname => ?_,
    Text.quoted_injective _, Text.quoted_injective _, softIdentifier_injOn dialect⟩
  exact ⟨_, hname.readPath?_softIdentifier, PathItem.map_contents_ofSegment _⟩

/-- Names of nothing but quotes, and a path with an empty step and a star, are read back. -/
theorem quotedNames_read_back_of_awkward :
    Text.unquote? '\x60' (quoteIdentifier .mysql "\x60\x60").toList = some (['\x60', '\x60'], []) ∧
    Text.unquote? '\'' (Value.string "it's'").literal.toList = some ("it's'".toList, []) ∧
    ∃ items, readPath? '\x60' (softIdentifier .mysql "users..*.").toList = some items ∧
      items.map PathItem.contents = ["users".toList, [], ['*'], []] := by
  obtain ⟨hnames, htexts, hpaths, -⟩ := quotedNames_read_back .mysql
  exact ⟨hnames "\x60\x60", htexts "it's'", hpaths "users..*." (by unfold IsPlainPath; decide)⟩

end ScopeQuery
