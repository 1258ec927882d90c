import ScopeQuery.Proofs.CutTemplates

/-!
# Tags that name clauses

The template of a statement has tags for its clauses and no other tags, in every mode and
dialect. A template is read piece by piece where its pieces end outside of tags.
-/

namespace ScopeQuery

/-- Whether the lexeme is a text or a tag that names a clause. -/
def Template.Lexeme.namesClause : Template.Lexeme → Bool
  | .text _ => true
  | .tag _ name => (Clause.ofTag? (String.ofList name)).isSome

/-- Whether every tag of a text names a clause. -/
def Template.namesClauses (text : List Char) : Bool := (lexemes text).all Lexeme.namesClause

/-- The tags of a template that names clauses are clauses. -/
theorem Template.clause?_of_namesClauses {template : String}
    (h : namesClauses template.toList = true) :
    ∀ tag ∈ tags (tokenize template), tag.1.clause?.isSome = true := by
  rw [namesClauses] at h
  rw [tokenize]
  generalize lexemes template.toList = lexed at h
  generalize 0 = next
  induction lexed generalizing next with
  | nil => exact List.forall_mem_nil _
  | cons first rest ih =>
    rw [List.all_cons, Bool.and_eq_true] at h
    obtain ⟨hfirst, hrest⟩ := h
    rw [segments_cons, tags_onto]
    refine List.forall_mem_append.2 ⟨?_, ih hrest _⟩
    rcases first with words | ⟨style, _ | ⟨c, name⟩⟩
    · exact List.forall_mem_nil _
    · cases hfirst
    · exact List.forall_mem_singleton.2 hfirst

/-- A text that ends outside of tags names clauses with what follows when both do. -/
theorem Template.namesClauses_append {text rest : List Char} (h : endsOutside text = true)
    (htext : namesClauses text = true) (hrest : namesClauses rest = true) :
    namesClauses (text ++ rest) = true := by
  rw [namesClauses, lexemes_append_of_endsOutside h, List.all_append, ← namesClauses,
    ← namesClauses, htext, hrest]
  rfl

/-- A text names clauses when its characters do, which spares decoding its bytes. -/
theorem Template.namesClauses_ofList {text : List Char} (h : namesClauses text = true) :
    namesClauses (String.ofList text).toList = true := by
  rwa [String.toList_ofList]

/-- Every tag of the template for adding a row is that of a clause. -/
theorem namesClauses_insertTemplate : Template.namesClauses insertTemplate.toList = true :=
  Template.namesClauses_ofList (by decide +kernel)

/-- So is every tag of the template that adds a row again when its key is refused: each piece of
it ends outside of tags. -/
theorem namesClauses_retriedInsertTemplate :
    Template.namesClauses retriedInsertTemplate.toList = true := by
  have houtside : Template.endsOutside insertTemplate.toList = true :=
    Template.endsOutside_ofList rfl
  delta retriedInsertTemplate
  simp only [String.toList_append, List.append_assoc]
  refine Template.namesClauses_append (Template.endsOutside_ofList rfl)
    (Template.namesClauses_ofList (by decide +kernel)) ?_
  refine Template.namesClauses_append houtside namesClauses_insertTemplate ?_
  refine Template.namesClauses_append (Template.endsOutside_ofList rfl)
    (Template.namesClauses_ofList (by decide +kernel)) ?_
  refine Template.namesClauses_append (Template.endsOutside_ofList rfl)
    (Template.namesClauses_ofList (by decide +kernel)) ?_
  refine Template.namesClauses_append houtside namesClauses_insertTemplate ?_
  refine Template.namesClauses_append (Template.endsOutside_ofList rfl)
    (Template.namesClauses_ofList (by decide +kernel)) ?_
  exact Template.namesClauses_ofList (by decide +kernel)

/-- Every tag of a statement's template is that of a clause, in every mode and dialect. -/
theorem namesClauses_modeTemplate (mode : Mode) (dialect : Dialect) :
    Template.namesClauses (modeTemplate mode dialect).toList = true := by
  have hselect : Template.namesClauses (modeTemplate .select .generic).toList = true :=
    Template.namesClauses_ofList (by decide +kernel)
  have hreplace : Template.namesClauses (modeTemplate .replace .generic).toList = true :=
    Template.namesClauses_ofList (by decide +kernel)
  have hupdate : Template.namesClauses (modeTemplate .update .generic).toList = true :=
    Template.namesClauses_ofList (by decide +kernel)
  have hdelete : Template.namesClauses (modeTemplate .delete .generic).toList = true :=
    Template.namesClauses_ofList (by decide +kernel)
  have htruncate : Template.namesClauses (modeTemplate .truncate .generic).toList = true :=
    Template.namesClauses_ofList (by decide +kernel)
  cases mode with
  | select => exact hselect
  | insert =>
    cases dialect with
    | mssql => exact namesClauses_retriedInsertTemplate
    | _ => exact namesClauses_insertTemplate
  | replace =>
    cases dialect with
    | sqlite => exact Template.namesClauses_ofList (by decide +kernel)
    | _ => exact hreplace
  | update => exact hupdate
  | delete => exact hdelete
  | truncate =>
    cases dialect with
    | sqlite => exact Template.namesClauses_ofList (by decide +kernel)
    | _ => exact htruncate

end ScopeQuery
