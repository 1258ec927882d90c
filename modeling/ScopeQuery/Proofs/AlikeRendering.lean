import ScopeQuery.Proofs.AlikeClauses
import ScopeQuery.Proofs.WrittenValues

/-!
# Alike renderings

Alike nodes render to the same text with parameters of the same names, or both fail. Two
nodes are followed side by side by what they come to before any session starts: an error, or
the pieces that a session writes. The induction goes through nested expressions, lists and
sub-queries as the renderer does; every template is the same on both sides, so the only pieces
that differ are values in the place of values.
-/

namespace ScopeQuery

variable {R : Value → Value → Prop} {dialect : Dialect}

/-! ### Alike pieces -/

/-- Pieces that are the same text, or values of which one may stand for the other. -/
inductive Piece.Alike (R : Value → Value → Prop) : Piece → Piece → Prop where
  /-- The same text. -/
  | text (text : String) : Alike R (.text text) (.text text)
  /-- Values of which one may stand for the other. -/
  | value {v w : Value} (h : v.Alike R w) : Alike R (.value v) (.value w)

/-- Lists of pieces that are alike one by one. -/
abbrev PiecesAlike (R : Value → Value → Prop) : List Piece → List Piece → Prop :=
  List.Forall₂ (Piece.Alike R)

/-- Pieces are alike to themselves. -/
theorem PiecesAlike.refl (pieces : List Piece) : PiecesAlike R pieces pieces := by
  refine List.forall₂_same.2 fun piece _ => ?_
  cases piece with
  | text text => exact .text text
  | value value => exact .value (.inl rfl)

/-- Alike pieces in parentheses. -/
theorem parenthesized_alike {pieces others : List Piece} (h : PiecesAlike R pieces others) :
    PiecesAlike R (parenthesized pieces) (parenthesized others) :=
  .cons (.text "(") (List.rel_append h (.cons (.text ")") .nil))

/-- Alike pieces with a separator between neighbours. -/
theorem joinedPieces_alike (separator : String) {groups others : List (List Piece)}
    (h : List.Forall₂ (PiecesAlike R) groups others) :
    PiecesAlike R (joinedPieces separator groups) (joinedPieces separator others) := by
  induction h with
  | nil => exact .nil
  | cons hpieces hrest ih =>
    cases hrest with
    | nil => exact hpieces
    | cons hnext hrest => exact List.rel_append hpieces (.cons (.text separator) ih)

/-- A value in the place of a parameter, as pieces. -/
theorem valuePieces_alike {v w : Value} (h : v.Alike R w) :
    PiecesAlike R (valuePieces dialect .param v) (valuePieces dialect .param w) := by
  obtain rfl | ⟨hrelated, hv, hw⟩ := h
  · exact .refl _
  · have hplain {value : Value} (hvalue : value.isArray = false) :
        valuePieces dialect .param value = [.value value] := by
      cases value <;> simp_all [Value.isArray, valuePieces]
    rw [hplain hv, hplain hw]
    exact .cons (.value (.inr ⟨hrelated, hv, hw⟩)) .nil

/-- The items of an array in the place of a parameter, as pieces. -/
theorem arrayPieces_alike {items others : List Value}
    (h : List.Forall₂ (Value.Alike R) items others) :
    PiecesAlike R (valuePieces dialect .param (.array items))
      (valuePieces dialect .param (.array others)) := by
  refine parenthesized_alike (joinedPieces_alike ", " ?_)
  refine List.forall₂_map_left_iff.2 (List.forall₂_map_right_iff.2 (h.imp fun _ _ hitem => ?_))
  exact .cons (.value hitem) .nil

/-! ### Alike outcomes -/

namespace AlikeOutcomes

variable {α β γ : Type} {A : α → α → Prop} {B : β → β → Prop} {C : γ → γ → Prop}

/-- What is done with the results of alike outcomes. -/
theorem map {f g : α → β} {step other : Except QueryError α} (h : AlikeOutcomes R A step other)
    (hf : ∀ a b, A a b → B (f a) (g b)) : AlikeOutcomes R B (step.map f) (other.map g) := by
  exact h.elim (fun _ _ herror => .error herror) fun _ _ hresult => .ok (hf _ _ hresult)

/-- Alike outcomes one after another. -/
theorem inTurn {combine : α → β → γ} {first otherFirst : Except QueryError α}
    {second otherSecond : Except QueryError β} (hfirst : AlikeOutcomes R A first otherFirst)
    (hsecond : AlikeOutcomes R B second otherSecond)
    (hcombine : ∀ a b a' b', A a a' → B b b' → C (combine a b) (combine a' b')) :
    AlikeOutcomes R C (inTurn combine first second) (inTurn combine otherFirst otherSecond) := by
  refine hfirst.elim (fun _ _ herror => .error herror) fun result otherResult hresult => ?_
  exact hsecond.map fun b b' hb => hcombine result b otherResult b' hresult hb

end AlikeOutcomes

/-- One template is filled alike when its tags come to alike outcomes. -/
theorem filled_alike {written other : TagTarget → TagStyle → Except QueryError (List Piece)}
    {parts : List Segment}
    (h : ∀ target style, .tag target style ∈ parts →
      AlikeOutcomes R (PiecesAlike R) (written target style) (other target style)) :
    AlikeOutcomes R (PiecesAlike R) (filled written parts) (filled other parts) := by
  induction parts with
  | nil => exact .ok .nil
  | cons part rest ih =>
    have hrest := ih fun target style hmem => h target style (List.mem_cons_of_mem _ hmem)
    cases part with
    | text text => exact hrest.map fun _ _ hpieces => .cons (.text text) hpieces
    | tag target style =>
      have htag := h target style List.mem_cons_self
      exact htag.inTurn hrest fun _ _ _ _ hpieces htail => List.rel_append hpieces htail

/-! ### Alike nodes -/

mutual

/-- Alike arguments are written alike in the place of a tag. -/
theorem Argument.written_alike (dialect : Dialect) {style : TagStyle}
    {argument other : Argument} (h : argument.Alike R style other) :
    AlikeOutcomes R (PiecesAlike R) (argument.written style dialect)
      (other.written style dialect) := by
  match argument, other, h with
  | _, _, .literal value =>
    rw [Argument.written]
    exact .ok (.refl _)
  | .literal v, .literal w, .value hvalue =>
    rw [Argument.written, Argument.written]
    exact .ok (valuePieces_alike hvalue)
  | .literal (.array items), .literal (.array others), .array hitems =>
    rw [Argument.written, Argument.written]
    exact .ok (arrayPieces_alike hitems)
  | .expression e, .expression f, .expression he =>
    have houtcome := e.written_alike dialect he
    have hwrapped : e.wrapped = f.wrapped := by
      obtain ⟨_, _⟩ := he
      rfl
    rw [Argument.written, Argument.written, ← hwrapped]
    split
    · exact houtcome.map fun _ _ => parenthesized_alike
    · exact houtcome
  | .statement s, .statement t, .statement hs =>
    rw [Argument.written, Argument.written]
    exact (s.written_alike dialect hs).map fun _ _ => parenthesized_alike
  | .list items, .list others, .list hlength hitems =>
    have hgroups := itemsWritten_alike dialect (List.forall₂_iff_zip.2 ⟨hlength, hitems⟩)
    rw [Argument.written, Argument.written]
    exact hgroups.map fun _ _ hgroups => parenthesized_alike (joinedPieces_alike ", " hgroups)
termination_by (argument.depth, 0, 0)
decreasing_by
  all_goals
    simp only [Argument.depth, Prod.lex_def]
    omega

/-- Several arguments that are alike one by one are written alike. -/
theorem itemsWritten_alike (dialect : Dialect) {style : TagStyle} {items others : List Argument}
    (h : List.Forall₂ (Argument.Alike R style) items others) :
    AlikeOutcomes R (List.Forall₂ (PiecesAlike R)) (itemsWritten items style dialect)
      (itemsWritten others style dialect) := by
  match items, others, h with
  | [], [], _ =>
    rw [itemsWritten]
    exact .ok .nil
  | argument :: rest, other :: others, .cons hargument hrest =>
    have hfirst := argument.written_alike dialect hargument
    have hfollowing := itemsWritten_alike dialect hrest
    rw [itemsWritten, itemsWritten]
    exact hfirst.inTurn hfollowing fun _ _ _ _ => .cons
termination_by (argumentsDepth items, 1, items.length)
decreasing_by
  all_goals
    simp only [argumentsDepth, Prod.lex_def, List.length_cons, true_and]
    omega

/-- Alike expressions are written alike. -/
theorem Expression.written_alike (dialect : Dialect) {e f : Expression} (h : e.Alike R f) :
    AlikeOutcomes R (PiecesAlike R) (e.written dialect) (f.written dialect) := by
  obtain ⟨htemplate, hpresent, harguments⟩ :
      e.template = f.template ∧
      (∀ target, (e.argument? target).isSome = (f.argument? target).isSome) ∧
      ∀ text, e.template = some text → ∀ target style,
        .tag target style ∈ Template.tokenize text → ∀ argument other,
          e.argument? target = some argument → f.argument? target = some other →
          argument.Alike R style other := by
    obtain ⟨hpresent, harguments⟩ := h
    exact ⟨rfl, hpresent, harguments⟩
  cases hfound : e.template with
  | none =>
    rw [Expression.written, Expression.written, ← htemplate, hfound]
    exact .error (.same _)
  | some template =>
    rw [Expression.written_of_template hfound,
      Expression.written_of_template (htemplate.symm.trans hfound)]
    refine filled_alike fun target style hmem => ?_
    have hsome := hpresent target
    unfold Expression.tagWritten
    match hleft : e.argument? target, hright : f.argument? target with
    | some argument, some other =>
      have hdepth := Expression.argument?_depth hleft
      exact argument.written_alike dialect
        (harguments template hfound target style hmem argument other hleft hright)
    | none, none => exact .error (.same _)
    | some argument, none => simp [hleft, hright] at hsome
    | none, some other => simp [hleft, hright] at hsome
termination_by (e.depth, 1, 0)
decreasing_by
  simp only [Prod.lex_def]
  omega

/-- Alike statements are written alike. -/
theorem Statement.written_alike (dialect : Dialect) {s t : Statement} (h : s.Alike R t) :
    AlikeOutcomes R (PiecesAlike R) (s.written dialect) (t.written dialect) := by
  have hmode : s.mode = t.mode := by
    obtain ⟨_, _, mode, _, _, _, _, _, _, _, _, _, _⟩ := h
    rfl
  rw [Statement.written_eq_filled, Statement.written_eq_filled, ← hmode]
  refine filled_alike fun target style _ => ?_
  unfold Statement.tagWritten
  rw [← hmode]
  match target.clause? with
  | none => exact .error (.same _)
  | some part =>
    dsimp only
    unfold Statement.clauseWritten
    obtain ⟨error, otherError, hleft, hright, herror⟩ | ⟨e, f, hleft, hright, he⟩ :=
      Statement.clause_alike h dialect part
    · rw [hleft, hright]
      exact .error herror
    · have hdepth := Statement.clause_depth_le hleft
      rw [hleft, hright]
      exact e.written_alike dialect he
termination_by (s.depth, 2, 0)
decreasing_by
  simp only [Prod.lex_def]
  omega

end

/-! ### Alike queries -/

/-- Parameters of one name with values of which one may stand for the other. -/
def ParamAlike (R : Value → Value → Prop) (param other : String × Value) : Prop :=
  param.1 = other.1 ∧ param.2.Alike R other.2

/-- Queries of one text with parameters that are alike one by one. -/
structure RenderedQuery.Alike (R : Value → Value → Prop) (query other : RenderedQuery) : Prop where
  /-- The texts. -/
  sql : query.sql = other.sql
  /-- The parameters. -/
  params : List.Forall₂ (ParamAlike R) query.params other.params

/-- Alike pieces are written to the same text, behind as many parameters. -/
theorem Session.write_alike (dialect : Dialect) {pieces others : List Piece}
    (h : PiecesAlike R pieces others) {params otherParams : List (String × Value)}
    (hparams : List.Forall₂ (ParamAlike R) params otherParams) :
    (write ⟨dialect, false, params⟩ pieces).1 = (write ⟨dialect, false, otherParams⟩ others).1 ∧
      List.Forall₂ (ParamAlike R) (write ⟨dialect, false, params⟩ pieces).2.params
        (write ⟨dialect, false, otherParams⟩ others).2.params := by
  induction h generalizing params otherParams with
  | nil => exact ⟨rfl, hparams⟩
  | cons hpiece _ ih =>
    cases hpiece with
    | text text =>
      obtain ⟨htext, hafter⟩ := ih hparams
      exact ⟨congrArg (text ++ ·) htext, hafter⟩
    | @value v w hvalue =>
      have hlength : params.length = otherParams.length := hparams.length_eq
      have hbound : List.Forall₂ (ParamAlike R)
          (params ++ [(placeholderName params.length, v)])
          (otherParams ++ [(placeholderName otherParams.length, w)]) :=
        List.rel_append hparams (.cons ⟨congrArg placeholderName hlength, hvalue⟩ .nil)
      obtain ⟨htext, hafter⟩ := ih hbound
      refine ⟨?_, hafter⟩
      have hname := congrArg (fun index => ":" ++ placeholderName index) hlength
      exact congrArg₂ (· ++ ·) hname htext

/-- Values in the place of values decide nothing but the values of parameters. Two statements
that are alike, rendered in any one dialect, both fail or become queries of the same text with
parameters of the same names in the same order, each value with the one that stands for it. The
values of the parameters are those that stand in each statement, in the order of its text. -/
theorem Statement.render_alike {s t : Statement} (h : s.Alike R t) (dialect : Dialect) :
    AlikeOutcomes R
      (fun query other => query.Alike R other ∧
        query.params = namedParams (s.values dialect) ∧
        other.params = namedParams (t.values dialect))
      { s with dialect }.render { t with dialect }.render := by
  have hsame : Statement.Alike R { s with dialect } { t with dialect } := by
    obtain ⟨_, _, mode, options, hfields, htables, hjoins, hwheres, hgroups, hhavings, horder,
      hlimit, hassignments⟩ := h
    exact .intro dialect dialect mode options hfields htables hjoins hwheres hgroups hhavings
      horder hlimit hassignments
  have hvalues (s : Statement) {query : RenderedQuery}
      (hquery : { s with dialect }.render = .ok query) :
      query.params = namedParams (s.values dialect) := by
    have hstored : ({ s with dialect } : Statement).values dialect = s.values dialect := by
      cases s
      rfl
    rw [params_of_render hquery, ← hstored]
  have hrendered : AlikeOutcomes R (RenderedQuery.Alike R) { s with dialect }.render
      { t with dialect }.render := by
    unfold render
    rw [renderInto_settles _ dialect (.bound dialect) rfl,
      renderInto_settles _ dialect (.bound dialect) rfl]
    refine (written_alike dialect hsame).elim (fun _ _ herror => .error herror)
      fun pieces others hpieces => ?_
    obtain ⟨hsql, hparams⟩ := Session.write_alike dialect hpieces .nil
    exact .ok ⟨hsql, hparams⟩
  obtain ⟨error, otherError, hleft, hright, herror⟩ | ⟨query, other, hleft, hright, halike⟩ :=
    hrendered
  · exact .inl ⟨error, otherError, hleft, hright, herror⟩
  · exact .inr ⟨query, other, hleft, hright, halike, hvalues s hleft, hvalues t hright⟩

/-- The keys of users older than given. -/
def olderThan (age : Value) : Statement where
  dialect := .generic
  fields := [⟨none, .text "id"⟩]
  tables := [⟨none, .text "users"⟩]
  wheres := [.comparison (.text "age") (some .gt) (.literal age)]

/-- A deletion of users by their name or one of two keys, when their manager is older than
given. -/
def keyedDeletion (name first second age : Value) (count : UInt64) : Statement where
  dialect := .mysql
  givenMode := some .delete
  tables := [⟨none, .text "users"⟩]
  wheres :=
    [.group .or
      [.comparison (.text "name") (some .neq) (.literal name),
        .comparison (.text "id") none (.literal (.array [first, second]))],
      .comparison (.text "manager") (some .isIn) (.statement (olderThan age))]
  limit := some ⟨count, 0⟩

/-- Some values, each with one that replaces it. -/
inductive Replaces : Value → Value → Prop where
  /-- A name. -/
  | name : Replaces (.string "ann") (.string "' or 1 = 1 --")
  /-- A key that is null. -/
  | first : Replaces .null (.bool true)
  /-- A key that becomes null. -/
  | second : Replaces (.string "7") .null
  /-- An age. -/
  | age : Replaces (.number (Number.ofNat 30)) (.string ":a")
  /-- A number of rows. -/
  | count : Replaces (.number (Number.ofNat (5 : UInt64).toNat))
      (.number (Number.ofNat (6 : UInt64).toNat))

/-- A name that tries to leave its quotes, null among the keys, an age that looks like a
placeholder and another count leave the text of the deletion alone. Each query binds the name,
the keys and the age that it was given. -/
theorem render_alike_keyedDeletion :
    AlikeOutcomes Replaces
      (fun query other => query.Alike Replaces other ∧
        query.params =
          namedParams [.string "ann", .null, .string "7", .number (Number.ofNat 30)] ∧
        other.params =
          namedParams [.string "' or 1 = 1 --", .bool true, .null, .string ":a"])
      { keyedDeletion (.string "ann") .null (.string "7") (.number (Number.ofNat 30)) 5 with
        dialect := .postgres }.render
      { keyedDeletion (.string "' or 1 = 1 --") (.bool true) .null (.string ":a") 6 with
        dialect := .postgres }.render := by
  have htext (text : String) : Argument.Alike Replaces .soft (.text text) (.text text) := .literal _
  have hname : Value.Alike Replaces (.string "ann") (.string "' or 1 = 1 --") :=
    .inr ⟨.name, rfl, rfl⟩
  have hfirst : Value.Alike Replaces .null (.bool true) := .inr ⟨.first, rfl, rfl⟩
  have hsecond : Value.Alike Replaces (.string "7") .null := .inr ⟨.second, rfl, rfl⟩
  have hage : Value.Alike Replaces (.number (Number.ofNat 30)) (.string ":a") :=
    .inr ⟨.age, rfl, rfl⟩
  have hlimit : RowLimit.Alike Replaces ⟨5, 0⟩ ⟨6, 0⟩ := ⟨.inr ⟨.count, rfl, rfl⟩, .inl rfl⟩
  have holder : Statement.Alike Replaces (olderThan (.number (Number.ofNat 30)))
      (olderThan (.string ":a")) :=
    .intro .generic .generic none [] (.cons (.intro none (htext "id")) .nil)
      (.cons (.intro none (htext "users")) .nil) .nil
      (.cons (.comparison (some .gt) (htext "age") (.value hage) rfl) .nil)
      .nil .nil .nil .none .nil
  have hkeys : List.Forall₂ (Value.Alike Replaces) [.null, .string "7"] [.bool true, .null] :=
    .cons hfirst (.cons hsecond .nil)
  have hwheres : List.Forall₂ (Predicate.Alike Replaces)
      (keyedDeletion (.string "ann") .null (.string "7") (.number (Number.ofNat 30)) 5).wheres
      (keyedDeletion (.string "' or 1 = 1 --") (.bool true) .null (.string ":a") 6).wheres :=
    .cons (.group .or (.cons (.comparison (some .neq) (htext "name") (.value hname) rfl)
        (.cons (.comparison none (htext "id") (.array hkeys) rfl) .nil)))
      (.cons (.comparison (some .isIn) (htext "manager") (.statement holder) rfl) .nil)
  have halike : Statement.Alike Replaces
      (keyedDeletion (.string "ann") .null (.string "7") (.number (Number.ofNat 30)) 5)
      (keyedDeletion (.string "' or 1 = 1 --") (.bool true) .null (.string ":a") 6) :=
    .intro .mysql .mysql (some .delete) [] .nil (.cons (.intro none (htext "users")) .nil) .nil
      hwheres .nil .nil .nil (.some hlimit) .nil
  exact Statement.render_alike halike .postgres

end ScopeQuery
