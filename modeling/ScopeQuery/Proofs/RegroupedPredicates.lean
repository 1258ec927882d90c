import ScopeQuery.Proofs.PredicateClauses

/-!
# Regrouped predicates

Predicates with the same fragments in the same order that say the same, although the groups
around the fragments may differ. A group is written with parentheses and junctions and binds
nothing itself, so what rendering does to a session depends on the fragments alone: statements
with regrouped predicates bind the same parameters, or fail with the same error.
-/

namespace ScopeQuery

/-- Predicates with the fragments of others, in order, that say the same together. -/
structure Regrouped (predicates others : List Predicate) : Prop where
  /-- The fragments are the same. -/
  leaves : Predicate.allLeaves others = Predicate.allLeaves predicates
  /-- Whatever the truth of the fragments is, the conjunctions have the same truth. -/
  verdict : ∀ truth, Junction.verdict? .and (Predicate.verdicts truth others) =
    Junction.verdict? .and (Predicate.verdicts truth predicates)

/-- Predicates are regrouped as they are. -/
theorem Regrouped.refl (predicates : List Predicate) : Regrouped predicates predicates :=
  ⟨rfl, fun _ => rfl⟩

/-- Joining the verdicts behind others before those does not change the whole under "and". -/
theorem Junction.verdict?_congr {verdicts others rest following : List Bool}
    (h : Junction.verdict? .and verdicts = Junction.verdict? .and others)
    (hrest : Junction.verdict? .and rest = Junction.verdict? .and following) :
    Junction.verdict? .and (verdicts ++ rest) = Junction.verdict? .and (others ++ following) := by
  cases verdicts <;> cases others <;> cases rest <;> cases following <;>
    simp_all [verdict?, decides, ← Bool.and_assoc]

/-- Regrouped predicates behind regrouped predicates. -/
theorem Regrouped.append {predicates others rest following : List Predicate}
    (h : Regrouped predicates others) (hrest : Regrouped rest following) :
    Regrouped (predicates ++ rest) (others ++ following) where
  leaves := by
    rw [Predicate.allLeaves_append, Predicate.allLeaves_append, h.leaves, hrest.leaves]
  verdict truth := by
    rw [Predicate.verdicts_append, Predicate.verdicts_append]
    exact Junction.verdict?_congr (h.verdict truth) (hrest.verdict truth)

/-! ### The session that rendering leaves -/

/-- Two renderings that leave the same session, or fail with the same error. -/
theorem sameAfter_cases {α β : Type} {rendering : Except QueryError (α × Session)}
    {other : Except QueryError (β × Session)} (h : rendering.map (·.2) = other.map (·.2)) :
    (∃ error, rendering = .error error ∧ other = .error error) ∨
      ∃ text otherText after, rendering = .ok (text, after) ∧ other = .ok (otherText, after) := by
  cases rendering with
  | error error =>
    cases other with
    | error otherError =>
      obtain rfl : error = otherError := Except.error.inj h
      exact .inl ⟨error, rfl, rfl⟩
    | ok result => cases h
  | ok result =>
    cases other with
    | error error => cases h
    | ok otherResult =>
      obtain ⟨text, after⟩ := result
      obtain ⟨otherText, otherAfter⟩ := otherResult
      obtain rfl : after = otherAfter := Except.ok.inj h
      exact .inr ⟨text, otherText, after, rfl, rfl⟩

/-- The session that arguments leave when they are rendered one after another. -/
def sessionAfter (items : List Argument) (session : Session) : Except QueryError Session :=
  (renderItems items .param session).map (·.2)

/-- Arguments behind others are rendered in the session that these leave. -/
theorem sessionAfter_append (items rest : List Argument) (session : Session) :
    sessionAfter (items ++ rest) session =
      (sessionAfter items session).bind (sessionAfter rest) := by
  rw [sessionAfter, sessionAfter, renderItems_concat]
  cases renderItems items .param session with
  | error error => rfl
  | ok result =>
    dsimp only [Except.bind, Except.map]
    rw [sessionAfter]
    cases renderItems rest .param result.2 <;> rfl

/-- Several parts joined leave the session that the parts leave one after another. -/
theorem sessionAfter_joinParts (junction : Junction) (parts : List Expression) (session : Session) :
    sessionAfter ((joinParts junction parts).toList.map .expression) session =
      sessionAfter (parts.map .expression) session := by
  match parts with
  | [] => rfl
  | [single] => rfl
  | first :: second :: rest =>
    have hplain : (" " ++ junction.sql ++ " ").toList.all Template.isPlain = true := by
      cases junction <;> decide
    rw [joinParts.eq_3 junction _ (by simp) (by simp), Option.toList_some, List.map_singleton,
      sessionAfter, renderItems, Argument.renderInto,
      Expression.renderInto_joinedBrackets "" (" " ++ junction.sql ++ " ")
        (by simp [joinedBrackets, Function.comp_def]) rfl hplain, sessionAfter]
    cases renderItems ((first :: second :: rest).map .expression) .param session with
    | error error => rfl
    | ok result =>
      simp only [Except.map, renderItems]

/-- Expressions of predicates that are made and rendered alike: the same error arises when they
are made, or they leave the same session. -/
inductive SameTrail : Except QueryError (List Expression) → Except QueryError (List Expression) →
    Prop where
  /-- Neither can be made. -/
  | failed (error : QueryError) : SameTrail (.error error) (.error error)
  /-- Both leave the same session behind any other. -/
  | made {parts others : List Expression}
      (h : ∀ session, sessionAfter (parts.map .expression) session =
        sessionAfter (others.map .expression) session) : SameTrail (.ok parts) (.ok others)

namespace SameTrail

variable {parts others third : Except QueryError (List Expression)}

/-- Expressions are made and rendered alike in either order. -/
theorem symm (h : SameTrail parts others) : SameTrail others parts := by
  cases h with
  | failed error => exact .failed error
  | made h => exact .made fun session => (h session).symm

/-- Expressions made and rendered like the same third ones are so like each other. -/
theorem trans (h : SameTrail parts others) (hnext : SameTrail others third) :
    SameTrail parts third := by
  cases h with
  | failed error => exact hnext
  | made h =>
    cases hnext with
    | made hnext => exact .made fun session => (h session).trans (hnext session)

end SameTrail

/-- The expressions of predicates and of those behind them. -/
theorem predicateExpressions_append (dialect : Dialect) (parts rest : List Predicate) :
    predicateExpressions dialect (parts ++ rest) =
      (predicateExpressions dialect parts).bind fun found =>
        (predicateExpressions dialect rest).map fun following => found ++ following := by
  induction parts with
  | nil =>
    rw [List.nil_append, predicateExpressions]
    cases predicateExpressions dialect rest <;> rfl
  | cons part parts ih =>
    rw [List.cons_append, predicateExpressions, predicateExpressions, ih]
    cases part.toExpression dialect with
    | error error => rfl
    | ok found =>
      cases predicateExpressions dialect parts with
      | error error => rfl
      | ok expressions =>
        cases predicateExpressions dialect rest with
        | error error => rfl
        | ok following => simp [Except.bind, Except.map, List.append_assoc]

mutual

/-- A predicate is made and rendered like its fragments. -/
theorem Predicate.sameTrail_leaves (dialect : Dialect) (part : Predicate) :
    SameTrail ((part.toExpression dialect).map Option.toList)
      (predicateExpressions dialect part.leaves) := by
  match part with
  | .comparison field operator value =>
    rw [leaves, predicateExpressions, predicateExpressions]
    cases (Predicate.comparison field operator value).toExpression dialect with
    | error error => exact .failed error
    | ok found => exact .made fun session => by rw [List.append_nil]
  | .fragment argument =>
    rw [leaves, predicateExpressions, predicateExpressions]
    cases (Predicate.fragment argument).toExpression dialect with
    | error error => exact .failed error
    | ok found => exact .made fun session => by rw [List.append_nil]
  | .group junction parts =>
    have hparts := Predicate.sameTrail_allLeaves dialect parts
    rw [leaves, toExpression]
    cases hfound : predicateExpressions dialect parts with
    | error error =>
      rw [hfound] at hparts
      exact hparts
    | ok found =>
      rw [hfound] at hparts
      -- The group leaves the session of its parts, and these that of their fragments.
      have hgroup : SameTrail (.ok (joinParts junction found).toList) (.ok found) :=
        .made (sessionAfter_joinParts junction found)
      exact hgroup.trans hparts

/-- Several predicates are made and rendered like their fragments. -/
theorem Predicate.sameTrail_allLeaves (dialect : Dialect) (parts : List Predicate) :
    SameTrail (predicateExpressions dialect parts)
      (predicateExpressions dialect (allLeaves parts)) := by
  match parts with
  | [] => exact .made fun session => rfl
  | part :: rest =>
    have hpart := Predicate.sameTrail_leaves dialect part
    have hrest := Predicate.sameTrail_allLeaves dialect rest
    rw [allLeaves, predicateExpressions_append, predicateExpressions]
    cases hfound : part.toExpression dialect with
    | error error =>
      rw [hfound] at hpart
      generalize predicateExpressions dialect part.leaves = made at hpart
      cases hpart with
      | failed => exact .failed error
    | ok found =>
      rw [hfound] at hpart
      generalize predicateExpressions dialect part.leaves = made at hpart
      cases hpart with
      | made hsession =>
        generalize predicateExpressions dialect rest = restFound at hrest
        generalize predicateExpressions dialect (allLeaves rest) = restMade at hrest
        cases hrest with
        | failed error => exact .failed error
        | made hsessions =>
          refine .made fun session => ?_
          rw [List.map_append, List.map_append, sessionAfter_append, sessionAfter_append,
            hsession session, funext hsessions]

end

/-- Predicates with the same fragments are made and rendered alike. -/
theorem sameTrail_of_leaves {predicates others : List Predicate}
    (h : Predicate.allLeaves others = Predicate.allLeaves predicates) (dialect : Dialect) :
    SameTrail (predicateExpressions dialect others) (predicateExpressions dialect predicates) := by
  have hothers := Predicate.sameTrail_allLeaves dialect others
  rw [h] at hothers
  exact hothers.trans (Predicate.sameTrail_allLeaves dialect predicates).symm

/-! ### Statements with regrouped predicates -/

/-- A statement that is another one with its predicates regrouped. -/
structure Statement.Regrouped (s other : Statement) : Prop where
  /-- Only the predicates differ. -/
  same : other = { s with wheres := other.wheres, havings := other.havings }
  /-- The predicates on rows are regrouped. -/
  wheres : ScopeQuery.Regrouped s.wheres other.wheres
  /-- The predicates on groups are regrouped. -/
  havings : ScopeQuery.Regrouped s.havings other.havings

/-- The text of a clause in a session and the session after it. -/
def Statement.clauseRendering (s : Statement) (clause : Clause) (session : Session) : Rendering :=
  match s.clause session.dialect clause with
  | .ok e => e.renderInto session
  | .error error => .error error

/-- A clause of predicates leaves the session that its parts leave. -/
theorem predicateClause_sessionAfter (s : Statement) (part : PredicateClause) (session : Session) :
    (s.clauseRendering part.clause session).map (·.2) =
      (predicateExpressions session.dialect (part.predicates s)).bind fun parts =>
        sessionAfter (parts.map .expression) session := by
  have hclause : s.clause session.dialect part.clause =
      Statement.predicateClause part.keyword (part.predicates s) session.dialect := by
    cases part <;> rfl
  rw [Statement.clauseRendering, hclause, Statement.predicateClause]
  cases predicateExpressions session.dialect (part.predicates s) with
  | error error => rfl
  | ok parts =>
    dsimp only [Except.bind]
    rw [optionalClause_renderInto, sessionAfter]
    cases renderItems (parts.map .expression) .param session <;> rfl

/-- Clauses of predicates with the same fragments leave the same session. -/
theorem predicateClause_sameAfter {s other : Statement} (part : PredicateClause)
    (h : Predicate.allLeaves (part.predicates other) = Predicate.allLeaves (part.predicates s))
    (session : Session) :
    (other.clauseRendering part.clause session).map (·.2) =
      (s.clauseRendering part.clause session).map (·.2) := by
  rw [predicateClause_sessionAfter, predicateClause_sessionAfter]
  have htrail := sameTrail_of_leaves h session.dialect
  generalize predicateExpressions session.dialect (part.predicates other) = found at htrail
  generalize predicateExpressions session.dialect (part.predicates s) = made at htrail
  cases htrail with
  | failed error => rfl
  | made hsession => exact hsession session

/-- Filling a template leaves the session that its tags leave one after another. -/
theorem fill_sameAfter {renderTag other : TagTarget → TagStyle → Session → Rendering}
    (h : ∀ target style session,
      (other target style session).map (·.2) = (renderTag target style session).map (·.2))
    (segments : List Segment) (session : Session) :
    (fill other segments session).map (·.2) = (fill renderTag segments session).map (·.2) := by
  induction segments generalizing session with
  | nil => rfl
  | cons segment rest ih =>
    cases segment with
    | text text =>
      rw [fill, fill]
      obtain ⟨error, hother, hfill⟩ | ⟨_, _, after, hother, hfill⟩ := sameAfter_cases (ih session)
      · rw [hother, hfill]
      · rw [hother, hfill]
        rfl
    | tag target style =>
      rw [fill, fill]
      obtain ⟨error, hother, htag⟩ | ⟨_, _, middle, hother, htag⟩ :=
        sameAfter_cases (h target style session)
      · rw [hother, htag]
      · rw [hother, htag]
        dsimp only
        -- The rest is filled in the session that both tags leave.
        obtain ⟨error, hrest, hfill⟩ | ⟨_, _, after, hrest, hfill⟩ := sameAfter_cases (ih middle)
        · rw [hrest, hfill]
        · rw [hrest, hfill]
          rfl

namespace Statement.Regrouped

variable {s other : Statement}

/-- The fragments of either clause are the same. -/
theorem leaves (h : s.Regrouped other) (part : PredicateClause) :
    Predicate.allLeaves (part.predicates other) = Predicate.allLeaves (part.predicates s) := by
  cases part with
  | wheres => exact h.wheres.leaves
  | havings => exact h.havings.leaves

/-- Every clause leaves the same session. -/
theorem clause_sameAfter (h : s.Regrouped other) (clause : Clause) (session : Session) :
    (other.clauseRendering clause session).map (·.2) =
      (s.clauseRendering clause session).map (·.2) := by
  cases clause with
  | wheres => exact predicateClause_sameAfter .wheres (h.leaves .wheres) session
  | havings => exact predicateClause_sameAfter .havings (h.leaves .havings) session
  | _ =>
    rw [h.same]
    rfl

/-- Rendering leaves the same session. -/
theorem renderInto_sameAfter (h : s.Regrouped other) (session : Session) :
    (other.renderInto session).map (·.2) = (s.renderInto session).map (·.2) := by
  have hmode : other.mode = s.mode := by
    rw [h.same]
    rfl
  rw [Statement.renderInto_eq_fill, Statement.renderInto_eq_fill, hmode]
  refine fill_sameAfter (fun target style middle => ?_) _ session
  unfold Statement.renderTag
  cases target.clause? with
  | none => rfl
  | some clause => exact h.clause_sameAfter clause middle

/-- Statements with regrouped predicates bind the same parameters, or fail with the same error. -/
theorem render_params (h : s.Regrouped other) :
    other.render.map (·.params) = s.render.map (·.params) := by
  have hdialect : other.dialect = s.dialect := by
    rw [h.same]
  rw [Statement.render, Statement.render, hdialect]
  obtain ⟨error, hother, hs⟩ | ⟨_, _, after, hother, hs⟩ :=
    sameAfter_cases (h.renderInto_sameAfter (.bound s.dialect))
  · rw [hother, hs]
  · rw [hother, hs]
    rfl

end Statement.Regrouped

/-- The text of a clause in a session. -/
def Statement.clauseText (s : Statement) (clause : Clause) (session : Session) :
    Except QueryError String :=
  (s.clauseRendering clause session).map (·.1)

/-- A clause of predicates that renders has no text exactly when no predicate has a fragment. -/
theorem clauseText_eq_empty_iff (s : Statement) (part : PredicateClause) (session : Session) :
    s.clauseText part.clause session = .ok "" ↔
      (s.clauseRendering part.clause session).map (fun _ => ()) = .ok () ∧
        Predicate.allLeaves (part.predicates s) = [] := by
  rw [Statement.clauseText]
  cases hrendering : s.clauseRendering part.clause session with
  | error error => simp [Except.map]
  | ok result =>
    obtain ⟨text, after⟩ := result
    rw [Statement.clauseRendering] at hrendering
    split at hrendering
    · rename_i e hclause
      obtain ⟨symbols, htext, -⟩ :=
        s.clause_says_predicates part session after e text hclause hrendering
      have hkeyword : part.keyword ≠ "" := by
        cases part <;> decide
      rw [Predicate.any_contributes] at htext
      cases hleaves : Predicate.allLeaves (part.predicates s) with
      | nil => simp [htext, hleaves, Except.map]
      | cons leaf rest => simp [htext, hleaves, Except.map, hkeyword]
    · cases hrendering

/-- Statements with regrouped predicates lack the text of a clause together. -/
theorem Statement.Regrouped.clauseText_eq_empty_iff {s other : Statement} (h : s.Regrouped other)
    (part : PredicateClause) (session : Session) :
    other.clauseText part.clause session = .ok "" ↔ s.clauseText part.clause session = .ok "" := by
  have hrenders : (other.clauseRendering part.clause session).map (fun _ => ()) =
      (s.clauseRendering part.clause session).map fun _ => () := by
    obtain ⟨error, hother, hs⟩ | ⟨_, _, after, hother, hs⟩ :=
      sameAfter_cases (h.clause_sameAfter part.clause session)
    · rw [hother, hs]
    · rw [hother, hs]
      rfl
  rw [ScopeQuery.clauseText_eq_empty_iff, ScopeQuery.clauseText_eq_empty_iff, hrenders,
    h.leaves part]

end ScopeQuery
