import ScopeQuery.Proofs.BracketTemplates

/-!
# Tags of templates

Which argument each tag of a template stands for and how it is written, with the texts left
out. The templates that clauses are made of have unnamed tags alone, so their styles in order
say everything; joining such templates with plain text between them joins the styles. The
templates of statements have tags that name clauses, and the mode decides which in which order.
-/

namespace ScopeQuery

/-- The target and the style of a tag. -/
def Segment.tag? : Segment → Option (TagTarget × TagStyle)
  | .text _ => none
  | .tag target style => some (target, style)

namespace Template

/-- The tags among segments, in order. -/
def tags (parts : List Segment) : List (TagTarget × TagStyle) := parts.filterMap Segment.tag?

/-- A tag is among the segments when it is among their tags. -/
theorem mem_tags {target : TagTarget} {style : TagStyle} {parts : List Segment} :
    (target, style) ∈ tags parts ↔ .tag target style ∈ parts := by
  rw [tags, List.mem_filterMap]
  refine ⟨?_, fun h => ⟨_, h, rfl⟩⟩
  rintro ⟨part, hpart, htag⟩
  cases part with
  | text text => simp [Segment.tag?] at htag
  | tag found written =>
    obtain ⟨rfl, rfl⟩ : found = target ∧ written = style := by simpa [Segment.tag?] using htag
    exact hpart

/-- Unnamed tags of these styles, numbered from a position on. -/
def placed (next : Nat) : List TagStyle → List (TagTarget × TagStyle)
  | [] => []
  | style :: rest => (.position next, style) :: placed (next + 1) rest

/-- Tags behind others are numbered from the position after these on. -/
theorem placed_append (next : Nat) (styles rest : List TagStyle) :
    placed next (styles ++ rest) = placed next styles ++ placed (next + styles.length) rest := by
  induction styles generalizing next with
  | nil => rfl
  | cons style styles ih =>
    rw [List.cons_append, placed, ih, placed, List.cons_append, List.length_cons,
      Nat.add_right_comm, Nat.add_assoc]

/-- A numbered tag stands where its style does. -/
theorem position_of_mem_placed {next : Nat} {styles : List TagStyle} {target : TagTarget}
    {style : TagStyle} (h : (target, style) ∈ placed next styles) :
    ∃ i, target = .position (next + i) ∧ styles[i]? = some style := by
  induction styles generalizing next with
  | nil => simp [placed] at h
  | cons first rest ih =>
    obtain hfirst | hrest := List.mem_cons.1 h
    · obtain ⟨rfl, rfl⟩ := Prod.mk.inj hfirst
      exact ⟨0, rfl, rfl⟩
    · obtain ⟨i, rfl, hstyle⟩ := ih hrest
      exact ⟨i + 1, by rw [Nat.add_assoc, Nat.add_comm 1], hstyle⟩

/-- A style stands at the tag of its position. -/
theorem mem_placed (next : Nat) {styles : List TagStyle} {i : Nat} {style : TagStyle}
    (h : styles[i]? = some style) : (.position (next + i), style) ∈ placed next styles := by
  induction styles generalizing next i with
  | nil => cases h
  | cons first rest ih =>
    cases i with
    | zero =>
      obtain rfl := Option.some.inj h
      exact List.mem_cons_self
    | succ i =>
      have hrest := ih (next + 1) h
      rw [Nat.add_assoc, Nat.add_comm 1] at hrest
      exact List.mem_cons_of_mem _ hrest

section Lexemes

variable {next : Nat} {rest : List Lexeme}

/-- A text in front has no tag. -/
theorem tags_segments_text (text : List Char) :
    tags (segments next (.text text :: rest)) = tags (segments next rest) := by
  rw [segments]
  split
  · rename_i following tail hrest
    rw [hrest]
    rfl
  · rfl

/-- An unnamed tag in front takes the next position. -/
theorem tags_segments_unnamed (style : TagStyle) :
    tags (segments next (.tag style [] :: rest)) =
      (.position next, style) :: tags (segments (next + 1) rest) := by
  rw [segments, if_pos List.isEmpty_nil]
  rfl

end Lexemes

/-- An empty pair of double braces is a tag. -/
theorem lexemes_doubleBraces (rest : List Char) :
    lexemes ('\x7b' :: '\x7b' :: '\x7d' :: '\x7d' :: rest) = .tag .soft [] :: lexemes rest := by
  have hname : Unicode.isWord '\x7d' = false := by decide +kernel
  have hlexeme : lexeme '\x7b' ('\x7b' :: '\x7d' :: '\x7d' :: rest) = (.tag .soft [], rest) := by
    simp [lexeme, isQuote, softTag?, spanName, hname]
  rw [lexemes, hlexeme]

/-- Whether a text has unnamed tags of these styles and no other, whatever follows it. -/
def HasUnnamed (text : List Char) (styles : List TagStyle) : Prop :=
  ∀ next rest, tags (segments next (lexemes (text ++ rest))) =
    placed next styles ++ tags (segments (next + styles.length) (lexemes rest))

/-- A plain text has no tags. -/
theorem HasUnnamed.plain {text : List Char} (h : text.all isPlain = true) : HasUnnamed text [] := by
  intro next rest
  rw [lexemes_append_of_isPlain h]
  clear h
  induction text with
  | nil => rfl
  | cons c text ih => rw [List.map_cons, List.cons_append, tags_segments_text, ih]

/-- An empty pair of brackets is a parameter. -/
theorem HasUnnamed.brackets : HasUnnamed "[]".toList [.param] := by
  intro next rest
  change tags (segments next (lexemes ('[' :: ']' :: rest))) = _
  rw [lexemes_brackets, tags_segments_unnamed]
  rfl

/-- An empty pair of double braces is a soft identifier. -/
theorem HasUnnamed.doubleBraces : HasUnnamed "\x7b\x7b\x7d\x7d".toList [.soft] := by
  intro next rest
  change tags (segments next (lexemes ('\x7b' :: '\x7b' :: '\x7d' :: '\x7d' :: rest))) = _
  rw [lexemes_doubleBraces, tags_segments_unnamed]
  rfl

/-- Texts one after another have their tags one after another. -/
theorem HasUnnamed.append {text other : List Char} {styles others : List TagStyle}
    (h : HasUnnamed text styles) (hother : HasUnnamed other others) :
    HasUnnamed (text ++ other) (styles ++ others) := by
  intro next rest
  rw [List.append_assoc, h, hother, placed_append, List.append_assoc, List.length_append,
    Nat.add_assoc]

/-- Texts with a separator between neighbours have the tags of all of them. -/
theorem HasUnnamed.joined {text separator : String} {styles : List TagStyle}
    (h : HasUnnamed text.toList styles) (hseparator : separator.toList.all isPlain = true)
    (n : Nat) :
    HasUnnamed (Text.joined separator (List.replicate n text)).toList
      (List.replicate n styles).flatten := by
  induction n with
  | zero => exact .plain rfl
  | succ n ih =>
    cases n with
    | zero => simpa [Text.joined] using h
    | succ n =>
      have hjoined : (Text.joined separator (List.replicate (n + 2) text)).toList =
          text.toList ++ (separator.toList ++
            (Text.joined separator (List.replicate (n + 1) text)).toList) := by
        simp [List.replicate_succ, Text.joined]
      have hrest := (HasUnnamed.plain hseparator).append ih
      rw [hjoined]
      exact h.append hrest

/-- The tags of a whole template. -/
theorem HasUnnamed.tags_tokenize {template : String} {styles : List TagStyle}
    (h : HasUnnamed template.toList styles) : tags (tokenize template) = placed 0 styles := by
  have htags := h 0 []
  rw [List.append_nil, lexemes] at htags
  rw [tokenize, htags]
  exact List.append_nil _

end Template

/-- A comparison has its first operand as a soft identifier and the second one as a parameter,
in every dialect. -/
theorem tags_comparisonTemplate (operator : Operator) (dialect : Dialect) :
    Template.tags (Template.tokenize (comparisonTemplate operator dialect)) =
      Template.placed 0 [.soft, .param] := by
  cases operator <;> cases dialect <;>
    exact (congrArg Template.tags (Template.tokenize_ofList _)).trans (by decide +kernel)

/-! ### Clauses of modes -/

/-- The clauses of one added row. -/
def rowClauses : List Clause := [.options, .tableNoAlias, .setFields, .setValues]

/-- The clauses in the text of a statement, in order. A row that is added twice has its clauses
twice, with the table around the second time. -/
def Mode.clauses : Mode → Dialect → List Clause
  | .select, _ => [.options, .fields, .tables, .joins, .wheres, .groups, .havings, .order, .limit]
  | .insert, .mssql => rowClauses ++ .tableNoAlias :: rowClauses ++ [.tableNoAlias, .tableNoAlias]
  | .insert, _ => rowClauses
  | .replace, _ => rowClauses
  | .update, _ => [.tableNoAlias, .assignments, .wheres]
  | .delete, _ => [.tableNoAlias, .wheres]
  | .truncate, _ => [.tableNoAlias]

/-- The clauses that the tags of a template name, in order. -/
def namedClauses (template : String) : List (Option Clause) :=
  (Template.tags (Template.tokenize template)).map (·.1.clause?)

/-- The template of adding a row names the clauses of the row. -/
theorem namedClauses_insertTemplate : namedClauses insertTemplate = rowClauses.map some := by
  decide +kernel

/-- The template of adding a row in two attempts names the clauses of both. -/
theorem namedClauses_retriedInsertTemplate :
    namedClauses retriedInsertTemplate = (Mode.insert.clauses .mssql).map some := by
  -- The characters of a short text are read much faster than those of a long one.
  simp only [namedClauses, Template.tokenize, retriedInsertTemplate, String.toList_append]
  decide +kernel

/-- The template of a mode names its clauses. -/
theorem namedClauses_modeTemplate (mode : Mode) (dialect : Dialect) :
    namedClauses (modeTemplate mode dialect) = (mode.clauses dialect).map some := by
  -- A template that dialects share is read once.
  have hshared {template other : String} {clauses : List (Option Clause)} (h : template = other)
      (hother : namedClauses other = clauses) : namedClauses template = clauses := h ▸ hother
  have hselect : namedClauses (modeTemplate .select .generic) =
      (Mode.select.clauses .generic).map some := by decide +kernel
  have hreplace : namedClauses (modeTemplate .replace .generic) = rowClauses.map some := by
    decide +kernel
  have hupdate : namedClauses (modeTemplate .update .generic) =
      (Mode.update.clauses .generic).map some := by decide +kernel
  have hdelete : namedClauses (modeTemplate .delete .generic) =
      (Mode.delete.clauses .generic).map some := by decide +kernel
  have htruncate : namedClauses (modeTemplate .truncate .generic) =
      (Mode.truncate.clauses .generic).map some := by decide +kernel
  cases mode with
  | select => exact hshared rfl hselect
  | insert =>
    cases dialect with
    | mssql => exact namedClauses_retriedInsertTemplate
    | _ => exact namedClauses_insertTemplate
  | replace =>
    cases dialect with
    | sqlite => decide +kernel
    | _ => exact hreplace
  | update => exact hshared rfl hupdate
  | delete => exact hshared rfl hdelete
  | truncate =>
    cases dialect with
    | sqlite => decide +kernel
    | _ => exact htruncate

end ScopeQuery
