import ScopeQuery.Proofs.PlaceholderNames
import ScopeQuery.Proofs.SettledRendering

/-!
# Parameters and literals

The text with bound parameters and the text for reading are one sequence of fixed
texts around one sequence of values. A bound session puts the next names between the
texts and appends their values in order; a session for reading puts literals there.
-/

namespace ScopeQuery

/-- A text with further texts after it, each behind what stands for a value. -/
def interleave (first : String) : List (String × String) → String
  | [] => first
  | (value, text) :: rest => first ++ value ++ interleave text rest

/-- A text in front goes in front of the first text. -/
theorem interleave_append (lead first : String) (rest : List (String × String)) :
    interleave (lead ++ first) rest = lead ++ interleave first rest := by
  cases rest with
  | nil => rfl
  | cons pair rest => simp only [interleave, String.append_assoc]

/-- The texts behind the placeholders of values, numbered from an index. -/
def boundHoles (index : Nat) (holes : List (Value × String)) : List (String × String) :=
  holes.mapIdx fun i hole => (":" ++ placeholderName (index + i), hole.2)

/-- The parameters of values, named from an index. -/
def boundParams (index : Nat) (holes : List (Value × String)) : List (String × Value) :=
  holes.mapIdx fun i hole => (placeholderName (index + i), hole.1)

/-- The texts behind the literals of values. -/
def literalHoles (holes : List (Value × String)) : List (String × String) :=
  holes.map fun hole => (hole.1.literal, hole.2)

/-- Placeholders after the first are numbered from the next index. -/
theorem boundHoles_cons (index : Nat) (value : Value) (text : String)
    (holes : List (Value × String)) :
    boundHoles index ((value, text) :: holes) =
      (":" ++ placeholderName index, text) :: boundHoles (index + 1) holes := by
  unfold boundHoles
  rw [List.mapIdx_cons]
  simp only [Nat.add_zero, Nat.add_assoc, Nat.add_comm 1]

/-- Parameters after the first are named from the next index. -/
theorem boundParams_cons (index : Nat) (value : Value) (text : String)
    (holes : List (Value × String)) :
    boundParams index ((value, text) :: holes) =
      (placeholderName index, value) :: boundParams (index + 1) holes := by
  unfold boundParams
  rw [List.mapIdx_cons]
  simp only [Nat.add_zero, Nat.add_assoc, Nat.add_comm 1]

/-- Every name is numbered from the index on. -/
theorem boundParams_name {index : Nat} {holes : List (Value × String)} {name : String}
    (h : name ∈ (boundParams index holes).map (·.1)) :
    ∃ i, index ≤ i ∧ name = placeholderName i := by
  induction holes generalizing index with
  | nil => simp [boundParams] at h
  | cons hole rest ih =>
    obtain ⟨value, text⟩ := hole
    rw [boundParams_cons, List.map_cons] at h
    cases List.mem_cons.1 h with
    | inl hfirst => exact ⟨index, Nat.le_refl index, hfirst⟩
    | inr hlater =>
      obtain ⟨i, hi, hname⟩ := ih hlater
      exact ⟨i, by omega, hname⟩

/-- The parameters of one rendering have names of their own. -/
theorem boundParams_nodup (index : Nat) (holes : List (Value × String)) :
    ((boundParams index holes).map (·.1)).Nodup := by
  induction holes generalizing index with
  | nil => simp [boundParams]
  | cons hole rest ih =>
    obtain ⟨value, text⟩ := hole
    rw [boundParams_cons, List.map_cons, List.nodup_cons]
    refine ⟨fun h => ?_, ih (index + 1)⟩
    obtain ⟨i, hi, hname⟩ := boundParams_name h
    have := placeholderName_injective hname
    omega

/-- The text before the first value of pieces. -/
def leadText : List Piece → String
  | [] => ""
  | .text text :: rest => text ++ leadText rest
  | .value _ :: _ => ""

/-- The values of pieces, each with the text up to the next one. -/
def valueHoles : List Piece → List (Value × String)
  | [] => []
  | .text _ :: rest => valueHoles rest
  | .value value :: rest => (value, leadText rest) :: valueHoles rest

/-- What a bound session writes for pieces. -/
theorem Session.write_bound (dialect : Dialect) (params : List (String × Value))
    (pieces : List Piece) :
    Session.write ⟨dialect, false, params⟩ pieces =
      (interleave (leadText pieces) (boundHoles params.length (valueHoles pieces)),
        ⟨dialect, false, params ++ boundParams params.length (valueHoles pieces)⟩) := by
  induction pieces generalizing params with
  | nil => simp [write, leadText, valueHoles, interleave, boundHoles, boundParams]
  | cons piece rest ih =>
    cases piece with
    | text text =>
      rw [write, ih, leadText, valueHoles]
      simp only [interleave_append]
    | value value =>
      rw [write, leadText, valueHoles, boundHoles_cons, boundParams_cons, interleave]
      simp only [bind, Bool.false_eq_true, if_false]
      rw [ih]
      simp

/-- What a session for reading writes for pieces. -/
theorem Session.write_inspecting (dialect : Dialect) (params : List (String × Value))
    (pieces : List Piece) :
    Session.write ⟨dialect, true, params⟩ pieces =
      (interleave (leadText pieces) (literalHoles (valueHoles pieces)),
        ⟨dialect, true, params⟩) := by
  induction pieces with
  | nil => rfl
  | cons piece rest ih =>
    cases piece with
    | text text =>
      rw [write, ih, leadText, valueHoles]
      simp only [interleave_append]
    | value value =>
      rw [write, leadText, valueHoles, literalHoles, List.map_cons, interleave]
      simp only [bind, if_true]
      rw [ih]
      simp [literalHoles]

/-! ### Queries of pieces -/

/-- The query of pieces: their texts with the names of the values between them, numbered from the
first. -/
def RenderedQuery.ofPieces (pieces : List Piece) : RenderedQuery where
  sql := interleave (leadText pieces) (boundHoles 0 (valueHoles pieces))
  params := boundParams 0 (valueHoles pieces)

/-- The text of pieces for reading: their texts with the literals of the values between them. -/
def inspectedText (pieces : List Piece) : String :=
  interleave (leadText pieces) (literalHoles (valueHoles pieces))

section Settled

variable {dialect : Dialect} {render : Session → Rendering}
  {outcome : Except QueryError (List Piece)}

/-- A session that binds leaves with the query of the pieces. -/
theorem Settles.bound_eq (h : Settles dialect render outcome) :
    (render (.bound dialect)).map (fun result => result.2.finish result.1) =
      outcome.map RenderedQuery.ofPieces := by
  rw [h (.bound dialect) rfl]
  cases outcome with
  | error error => rfl
  | ok pieces =>
    have hwritten := Session.write_bound dialect [] pieces
    simp only [Except.map, Session.bound, hwritten]
    rfl

/-- A session for reading leaves with the text of the pieces for reading. -/
theorem Settles.inspecting_eq (h : Settles dialect render outcome) :
    (render (.inspecting dialect)).map (·.1) = outcome.map inspectedText := by
  rw [h (.inspecting dialect) rfl]
  cases outcome with
  | error error => rfl
  | ok pieces =>
    have hwritten := Session.write_inspecting dialect [] pieces
    simp only [Except.map, Session.inspecting, hwritten]
    rfl

end Settled

/-- An expression becomes the query of what it comes to in the dialect. -/
theorem Expression.render_eq_written (e : Expression) (dialect : Dialect) :
    e.render dialect = (e.written dialect).map RenderedQuery.ofPieces := by
  rw [← (e.renderInto_settles dialect).bound_eq, render]
  cases e.renderInto (.bound dialect) <;> rfl

/-- The text of an expression for reading is that of what it comes to in the dialect. -/
theorem Expression.inspect_eq_written (e : Expression) (dialect : Dialect) :
    e.inspect dialect = (e.written dialect).map inspectedText := by
  rw [← (e.renderInto_settles dialect).inspecting_eq, inspect]
  cases e.renderInto (.inspecting dialect) <;> rfl

/-- A statement becomes the query of what it comes to in its dialect. -/
theorem Statement.render_eq_written (s : Statement) :
    s.render = (s.written s.dialect).map RenderedQuery.ofPieces := by
  rw [← (s.renderInto_settles s.dialect).bound_eq, render]
  cases s.renderInto (.bound s.dialect) <;> rfl

/-- The text of a statement for reading is that of what it comes to in its dialect. -/
theorem Statement.inspect_eq_written (s : Statement) :
    s.inspect = (s.written s.dialect).map inspectedText := by
  rw [← (s.renderInto_settles s.dialect).inspecting_eq, inspect]
  cases s.renderInto (.inspecting s.dialect) <;> rfl

/-! ### Substitution -/

/-- An expression or a statement. -/
inductive RenderedNode where
  /-- An expression. -/
  | expression (e : Expression)
  /-- A statement. -/
  | statement (s : Statement)

/-- The text of a node in a session. -/
def RenderedNode.renderInto : RenderedNode → Session → Rendering
  | .expression e => e.renderInto
  | .statement s => s.renderInto

/-- Rendering a node is settled. -/
theorem RenderedNode.renderInto_settled (node : RenderedNode) (dialect : Dialect) :
    Settled dialect node.renderInto := by
  cases node with
  | expression e => exact e.renderInto_settled dialect
  | statement s => exact s.renderInto_settled dialect

/-- Bound and inspected text differ in what stands for the values alone. A node fails in
every session of a dialect with one error, or there are fixed texts around values such
that a bound session writes the texts with the next names between them and appends the
values under these names, no two alike, and a session for reading writes the texts with
the literals of the values between them. -/
theorem RenderedNode.renderInto_substitutes (node : RenderedNode) (dialect : Dialect) :
    (∃ error, ∀ inline params, node.renderInto ⟨dialect, inline, params⟩ = .error error) ∨
    ∃ (first : String) (holes : List (Value × String)),
      (∀ params, node.renderInto ⟨dialect, false, params⟩ =
        .ok (interleave first (boundHoles params.length holes),
          ⟨dialect, false, params ++ boundParams params.length holes⟩)) ∧
      (∀ params, node.renderInto ⟨dialect, true, params⟩ =
        .ok (interleave first (literalHoles holes), ⟨dialect, true, params⟩)) ∧
      ∀ index, ((boundParams index holes).map (·.1)).Nodup := by
  obtain ⟨error, herror⟩ | ⟨pieces, hpieces⟩ := node.renderInto_settled dialect
  · exact .inl ⟨error, fun inline params => herror _ rfl⟩
  · refine .inr ⟨leadText pieces, valueHoles pieces, fun params => ?_, fun params => ?_,
      fun index => boundParams_nodup index _⟩
    · rw [hpieces _ rfl, Session.write_bound]
    · rw [hpieces _ rfl, Session.write_inspecting]

end ScopeQuery
