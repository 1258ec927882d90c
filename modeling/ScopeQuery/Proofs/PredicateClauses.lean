import ScopeQuery.Proofs.BackendAgreement
import ScopeQuery.Proofs.BracketTemplates
import ScopeQuery.Proofs.ClauseReading

/-!
# What a clause of predicates says

The text of a where or having clause is read back, with the fragments of its predicates
indivisible. It says what the predicates say together: a group is its parts joined, a group
without parts is left out at every depth, and a clause without any part has no text. The
induction follows the predicates, and what is carried through it is that the text of every
part is an operand, so that no junction around it can take it apart.
-/

namespace ScopeQuery

namespace Predicate

mutual

/-- The predicates that are no groups, from left to right. -/
def leaves : Predicate → List Predicate
  | .comparison field operator value => [.comparison field operator value]
  | .fragment argument => [.fragment argument]
  | .group _ parts => allLeaves parts

/-- The predicates in several that are no groups, in order. -/
def allLeaves : List Predicate → List Predicate
  | [] => []
  | part :: rest => leaves part ++ allLeaves rest

end

mutual

/-- What a predicate says when each fragment is as true as given; a group in which nothing
contributes says nothing. -/
def verdict? (truth : Predicate → Bool) : Predicate → Option Bool
  | .comparison field operator value => some (truth (.comparison field operator value))
  | .fragment argument => some (truth (.fragment argument))
  | .group junction parts => junction.verdict? (verdicts truth parts)

/-- What those of several predicates say that say anything, in order. -/
def verdicts (truth : Predicate → Bool) : List Predicate → List Bool
  | [] => []
  | part :: rest => (verdict? truth part).toList ++ verdicts truth rest

end

/-- The fragments of several predicates and of more behind them. -/
theorem allLeaves_append (parts rest : List Predicate) :
    allLeaves (parts ++ rest) = allLeaves parts ++ allLeaves rest := by
  induction parts with
  | nil => rfl
  | cons part parts ih => rw [List.cons_append, allLeaves, ih, allLeaves, List.append_assoc]

/-- What several predicates say and what those behind them say. -/
theorem verdicts_append (truth : Predicate → Bool) (parts rest : List Predicate) :
    verdicts truth (parts ++ rest) = verdicts truth parts ++ verdicts truth rest := by
  induction parts with
  | nil => rfl
  | cons part parts ih => rw [List.cons_append, verdicts, verdicts, ih, List.append_assoc]

/-- Whether the predicate is a fragment or has one in it. -/
def contributes (predicate : Predicate) : Bool := !predicate.leaves.isEmpty

/-- Several predicates have a fragment in them when one of them contributes. -/
theorem any_contributes (parts : List Predicate) :
    parts.any contributes = !(allLeaves parts).isEmpty := by
  induction parts with
  | nil => rfl
  | cons part rest ih =>
    rw [List.any_cons, ih, allLeaves, contributes]
    cases part.leaves <;> rfl

mutual

/-- A predicate says something when it contributes, whatever the truth of fragments is. -/
theorem isSome_verdict? (truth : Predicate → Bool) (part : Predicate) :
    (part.verdict? truth).isSome = !part.leaves.isEmpty := by
  match part with
  | .comparison field operator value => rfl
  | .fragment argument => rfl
  | .group junction parts =>
    rw [verdict?, leaves, ← isEmpty_verdicts truth parts, Junction.verdict?]
    cases (verdicts truth parts).isEmpty <;> rfl

/-- Several predicates say nothing when none of them has a fragment in it. -/
theorem isEmpty_verdicts (truth : Predicate → Bool) (parts : List Predicate) :
    (verdicts truth parts).isEmpty = (allLeaves parts).isEmpty := by
  match parts with
  | [] => rfl
  | part :: rest =>
    have hpart := isSome_verdict? truth part
    have hrest := isEmpty_verdicts truth rest
    rw [verdicts, allLeaves]
    cases hverdict : part.verdict? truth <;> cases hleaves : part.leaves <;> simp_all

end

end Predicate

/-- Fragments with their texts, as they are rendered one after another. -/
inductive RenderedInTurn : Session → List (Predicate × String) → Session → Prop where
  /-- No fragment is rendered. -/
  | nil (session : Session) : RenderedInTurn session [] session
  /-- A fragment is rendered before the others. -/
  | cons {leaf : Predicate} {e : Expression} {session middle after : Session} {text : String}
      {rest : List (Predicate × String)}
      (hexpression : leaf.toExpression session.dialect = .ok (some e))
      (htext : e.renderInto session = .ok (text, middle))
      (hrest : RenderedInTurn middle rest after) :
      RenderedInTurn session ((leaf, text) :: rest) after

/-- Fragments rendered after others are rendered in turn with them. -/
theorem RenderedInTurn.append {session middle after : Session}
    {leaves rest : List (Predicate × String)} (h : RenderedInTurn session leaves middle)
    (hrest : RenderedInTurn middle rest after) : RenderedInTurn session (leaves ++ rest) after := by
  induction h with
  | nil session => exact hrest
  | cons hexpression htext _ ih => exact .cons hexpression htext (ih hrest)

/-- Arguments behind others are rendered in the session that these leave. -/
theorem renderItems_concat (items rest : List Argument) (style : TagStyle) (session : Session) :
    renderItems (items ++ rest) style session =
      (renderItems items style session).bind fun (texts, middle) =>
        (renderItems rest style middle).map fun (others, after) => (texts ++ others, after) := by
  induction items generalizing session with
  | nil =>
    rw [List.nil_append, renderItems]
    dsimp only [Except.bind]
    cases renderItems rest style session <;> rfl
  | cons item items ih =>
    rw [List.cons_append, renderItems, renderItems]
    cases item.renderInto style session with
    | error error => rfl
    | ok result =>
      dsimp only
      rw [ih]
      cases renderItems items style result.2 with
      | error error => rfl
      | ok found =>
        dsimp only [Except.bind]
        cases renderItems rest style found.2 <;> rfl

/-- Arguments one after another are rendered one after another. -/
theorem renderItems_append {items rest : List Argument} {style : TagStyle}
    {session after : Session} {texts : List String}
    (h : renderItems (items ++ rest) style session = .ok (texts, after)) :
    ∃ first middle second, renderItems items style session = .ok (first, middle) ∧
      renderItems rest style middle = .ok (second, after) ∧ texts = first ++ second := by
  rw [renderItems_concat] at h
  cases hitems : renderItems items style session with
  | error error =>
    rw [hitems] at h
    cases h
  | ok found =>
    obtain ⟨first, middle⟩ := found
    rw [hitems] at h
    dsimp only [Except.bind] at h
    cases hrest : renderItems rest style middle with
    | error error =>
      rw [hrest] at h
      cases h
    | ok following =>
      rw [hrest] at h
      cases h
      exact ⟨first, middle, following.1, rfl, hrest, rfl⟩

/-- One argument alone has one text. -/
theorem renderItems_singleton {item : Argument} {style : TagStyle} {session after : Session}
    {texts : List String} (h : renderItems [item] style session = .ok (texts, after)) :
    ∃ text, texts = [text] ∧ item.renderInto style session = .ok (text, after) := by
  rw [renderItems] at h
  split at h
  · cases h
  · rename_i text next hitem
    rw [renderItems] at h
    cases h
    exact ⟨text, rfl, hitem⟩

/-- An operand with the formula it is read as. -/
abbrev ReadOperand := List (Symbol Predicate) × Formula Predicate

/-- Texts that were rendered for predicates, as operands: what is written for the operands,
how their fragments were rendered, and which these are. -/
structure ReadBack (session : Session) (texts : List String) (after : Session)
    (leaves : List Predicate) (operands : List ReadOperand) : Prop where
  /-- The texts are those of the operands. -/
  spelled : operands.map (fun operand => Symbol.spelled operand.1) = texts
  /-- Each operand is read as its formula. -/
  readable : ∀ operand ∈ operands, OperandOf operand.1 operand.2
  /-- The fragments are rendered in turn. -/
  inTurn : RenderedInTurn session (operands.flatMap fun operand => Symbol.atoms operand.1) after
  /-- The fragments are those of the predicates. -/
  origins : (operands.flatMap fun operand => Symbol.atoms operand.1).map (·.1) = leaves

namespace ReadBack

variable {session middle after : Session} {texts further : List String}
  {leaves others : List Predicate} {operands rest : List ReadOperand}

/-- Nothing is read back from nothing. -/
theorem nil (session : Session) : ReadBack session [] session [] [] :=
  ⟨rfl, by simp, .nil session, rfl⟩

/-- What was rendered in two steps is read back in two. -/
theorem append (h : ReadBack session texts middle leaves operands)
    (hrest : ReadBack middle further after others rest) :
    ReadBack session (texts ++ further) after (leaves ++ others) (operands ++ rest) where
  spelled := by rw [List.map_append, h.spelled, hrest.spelled]
  readable := by
    intro operand hoperand
    cases List.mem_append.1 hoperand with
    | inl hleft => exact h.readable operand hleft
    | inr hright => exact hrest.readable operand hright
  inTurn := by
    rw [List.flatMap_append]
    exact h.inTurn.append hrest.inTurn
  origins := by rw [List.flatMap_append, List.map_append, h.origins, hrest.origins]

/-- A fragment is read back as itself. -/
theorem leaf {predicate : Predicate} {e : Expression} {text : String}
    (hexpression : predicate.toExpression session.dialect = .ok (some e))
    (htext : e.renderInto session = .ok (text, after)) :
    ReadBack session [text] after [predicate] [([.atom predicate text], .atom predicate)] where
  spelled := by simp [Symbol.spelled]
  readable := by simp [OperandOf.atom]
  inTurn := .cons hexpression htext (.nil after)
  origins := rfl

/-- A chain in parentheses is read back as one operand. -/
theorem group {first : ReadOperand} (junction : Junction)
    (h : ReadBack session texts after leaves (first :: rest)) :
    ReadBack session ["(" ++ Text.joined (" " ++ junction.sql ++ " ") texts ++ ")"] after leaves
      [(parenthesizedChain junction ((first :: rest).map (·.1)),
        Formula.chain junction first.2 (rest.map (·.2)))] := by
  have hatoms : Symbol.atoms (parenthesizedChain junction ((first :: rest).map (·.1))) =
      (first :: rest).flatMap fun operand => Symbol.atoms operand.1 := by
    rw [Symbol.atoms_parenthesizedChain, List.flatMap_map]
  refine ⟨?_, fun operand hoperand => ?_, ?_, ?_⟩
  · rw [List.map_singleton, Symbol.spelled_parenthesizedChain, ← h.spelled, List.map_map]
    rfl
  · obtain rfl := List.mem_singleton.1 hoperand
    exact .parenthesized junction first rest h.readable
  · rw [List.flatMap_singleton, hatoms]
    exact h.inTurn
  · rw [List.flatMap_singleton, hatoms]
    exact h.origins

end ReadBack

/-- The expression of a comparison needs no parentheses. -/
theorem comparisonExpression_wrapped {dialect : Dialect} {field value : Argument}
    {operator : Option Operator} {e : Expression}
    (h : comparisonExpression dialect field operator value = .ok e) : e.wrapped = false := by
  unfold comparisonExpression nullTest membership at h
  split at h
  · split at h
    · cases h
    · split at h <;> cases h <;> rfl
  · split at h
    · split at h
      · cases h
        split
        · rfl
        · split <;> rfl
      · cases h
    · cases h
      rfl

/-- An expression without parentheses is written as it is in the place of an argument. -/
theorem Expression.renderInto_of_item {e : Expression} {session after : Session}
    {texts : List String} (hwrapped : e.wrapped = false)
    (h : renderItems [.expression e] .param session = .ok (texts, after)) :
    ∃ text, texts = [text] ∧ e.renderInto session = .ok (text, after) := by
  obtain ⟨text, htexts, hitem⟩ := renderItems_singleton h
  rw [Argument.renderInto] at hitem
  split at hitem
  · rename_i hbody
    rw [hwrapped, if_neg Bool.false_ne_true] at hitem
    cases hitem
    exact ⟨text, htexts, hbody⟩
  · cases hitem

/-- Several parts with a junction between them are written in parentheses. -/
theorem joinParts_rendered {junction : Junction} {first second : Expression}
    {rest : List Expression} {session after : Session} {texts : List String}
    (h : renderItems
      ((joinParts junction (first :: second :: rest)).toList.map .expression) .param session =
        .ok (texts, after)) :
    ∃ parts, renderItems ((first :: second :: rest).map .expression) .param session =
        .ok (parts, after) ∧
      texts = ["(" ++ Text.joined (" " ++ junction.sql ++ " ") parts ++ ")"] := by
  obtain ⟨text, htexts, hitem⟩ := renderItems_singleton h
  have hplain : (" " ++ junction.sql ++ " ").toList.all Template.isPlain = true := by
    cases junction <;> decide
  rw [Argument.renderInto, Expression.renderInto_joinedBrackets "" (" " ++ junction.sql ++ " ")
    (by simp [joinedBrackets, Function.comp_def]) rfl hplain] at hitem
  dsimp only at hitem
  cases hparts : renderItems ((first :: second :: rest).map .expression) .param session with
  | error error =>
    rw [hparts] at hitem
    cases hitem
  | ok result =>
    obtain ⟨parts, middle⟩ := result
    rw [hparts] at hitem
    simp only [Except.map, if_true, Except.ok.injEq, Prod.mk.injEq] at hitem
    obtain ⟨rfl, rfl⟩ := hitem
    exact ⟨parts, rfl, by simpa using htexts⟩

/-- A chain from its first part on is as true as its parts joined. -/
theorem holds_chain_of_start (junction : Junction) (truth : Predicate → Bool) (first : ReadOperand)
    (rest : List ReadOperand) :
    (Formula.chain junction first.2 (rest.map (·.2))).holds truth =
      junction.decides ((first :: rest).map fun operand => operand.2.holds truth) := by
  rw [Formula.holds_chain]
  simp [Function.comp_def]

mutual

/-- A predicate with a text is read back as one operand, and one without says nothing. -/
theorem Predicate.readBack (part : Predicate) {found : Option Expression}
    {session after : Session} {texts : List String}
    (hfound : part.toExpression session.dialect = .ok found)
    (hrender : renderItems (found.toList.map .expression) .param session = .ok (texts, after)) :
    ∃ operand : Option ReadOperand, ReadBack session texts after part.leaves operand.toList ∧
      ∀ truth, part.verdict? truth = operand.map fun operand => operand.2.holds truth := by
  match part with
  | .comparison field operator value =>
    have hleaf := hfound
    rw [toExpression] at hfound
    split at hfound
    · rename_i e hexpression
      cases hfound
      obtain ⟨text, rfl, htext⟩ :=
        Expression.renderInto_of_item (comparisonExpression_wrapped hexpression) hrender
      exact ⟨some _, ReadBack.leaf hleaf htext, fun truth => rfl⟩
    · cases hfound
  | .fragment argument =>
    have hleaf := hfound
    rw [toExpression] at hfound
    cases hfound
    obtain ⟨text, rfl, htext⟩ := Expression.renderInto_of_item rfl hrender
    exact ⟨some _, ReadBack.leaf hleaf htext, fun truth => rfl⟩
  | .group junction parts =>
    rw [toExpression] at hfound
    split at hfound
    · rename_i expressions hexpressions
      cases hfound
      rw [leaves]
      match expressions with
      | [] =>
        obtain ⟨operands, hback, hverdicts⟩ := readBack_all parts hexpressions hrender
        have hlength := renderItems_length hrender
        obtain rfl := List.length_eq_zero_iff.1 hlength
        obtain rfl := List.map_eq_nil_iff.1 hback.spelled
        exact ⟨none, hback, fun truth => by rw [verdict?, hverdicts]; rfl⟩
      | [single] =>
        -- A part alone stands without parentheses; it is an operand as it is.
        obtain ⟨operands, hback, hverdicts⟩ := readBack_all parts hexpressions hrender
        obtain ⟨text, rfl, -⟩ := renderItems_singleton hrender
        obtain ⟨operand, rfl, -⟩ := List.map_eq_singleton_iff.1 hback.spelled
        refine ⟨some operand, hback, fun truth => ?_⟩
        rw [verdict?, hverdicts]
        cases junction <;> simp [Junction.verdict?, Junction.decides]
      | first :: second :: rest =>
        -- Only here a junction is written, and the parentheses make one operand of the chain.
        obtain ⟨partTexts, hparts, rfl⟩ := joinParts_rendered hrender
        obtain ⟨operands, hback, hverdicts⟩ := readBack_all parts hexpressions hparts
        have hlength := renderItems_length hparts
        match operands with
        | [] => simp [← hback.spelled] at hlength
        | operand :: operands =>
          refine ⟨some _, hback.group junction, fun truth => ?_⟩
          rw [verdict?, hverdicts, Option.map_some, holds_chain_of_start]
          rfl
    · cases hfound

/-- Predicates are read back as one operand for each of them that has a text. -/
theorem Predicate.readBack_all (parts : List Predicate) {found : List Expression}
    {session after : Session} {texts : List String}
    (hfound : predicateExpressions session.dialect parts = .ok found)
    (hrender : renderItems (found.map .expression) .param session = .ok (texts, after)) :
    ∃ operands : List ReadOperand, ReadBack session texts after (allLeaves parts) operands ∧
      ∀ truth, verdicts truth parts = operands.map fun operand => operand.2.holds truth := by
  match parts with
  | [] =>
    rw [predicateExpressions] at hfound
    cases hfound
    rw [List.map_nil, renderItems] at hrender
    cases hrender
    exact ⟨[], ReadBack.nil session, fun truth => rfl⟩
  | part :: rest =>
    rw [predicateExpressions] at hfound
    split at hfound
    · cases hfound
    · rename_i expression hexpression
      split at hfound
      · cases hfound
      · rename_i expressions hexpressions
        cases hfound
        -- The rest is rendered in the session the part leaves, which is of the same dialect.
        rw [List.map_append] at hrender
        obtain ⟨first, middle, second, hfirst, hsecond, rfl⟩ := renderItems_append hrender
        rw [← renderItems_dialect hfirst] at hexpressions
        obtain ⟨operand, hback, hverdict⟩ := readBack part hexpression hfirst
        obtain ⟨operands, hbacks, hverdicts⟩ := readBack_all rest hexpressions hsecond
        refine ⟨operand.toList ++ operands, hback.append hbacks, fun truth => ?_⟩
        rw [verdicts, hverdict, hverdicts]
        cases operand <;> rfl

end

/-- A clause of predicates. -/
inductive PredicateClause where
  /-- The predicates on rows. -/
  | wheres
  /-- The predicates on groups. -/
  | havings

namespace PredicateClause

/-- The clause as a part of a statement. -/
def clause : PredicateClause → Clause
  | .wheres => .wheres
  | .havings => .havings

/-- The keyword, with blanks around it. -/
def keyword : PredicateClause → String
  | .wheres => " where "
  | .havings => " having "

/-- The predicates of the clause in a statement. -/
def predicates (statement : Statement) : PredicateClause → List Predicate
  | .wheres => statement.wheres
  | .havings => statement.havings

end PredicateClause

/-- A clause of parts is rendered as its parts one after another, behind the keyword and with
"and" between them; one without parts is empty. -/
theorem optionalClause_renderInto (part : PredicateClause) (expressions : List Expression)
    (session : Session) :
    (optionalClause part.keyword " and " (expressions.map .ofPredicate)).renderInto session =
      (renderItems (expressions.map .expression) .param session).map fun (texts, after) =>
        (if expressions.isEmpty then "" else part.keyword ++ Text.joined " and " texts, after) := by
  cases hempty : expressions.isEmpty with
  | true =>
    obtain rfl := List.isEmpty_iff.1 hempty
    rw [List.map_nil, optionalClause, if_pos List.isEmpty_nil, emptyClause,
      Expression.renderInto_joinedBrackets "" "" rfl rfl rfl, Expression.ofTemplate, List.map_nil,
      renderItems]
    rfl
  | false =>
    have hoperands : (expressions.map ClauseItem.ofPredicate).flatMap (·.operands) =
        expressions.map .expression := by
      rw [List.flatMap_map]
      exact List.map_eq_flatMap.symm
    have hclause : optionalClause part.keyword " and " (expressions.map .ofPredicate) =
        .ofTemplate (part.keyword ++ joinedBrackets " and " (expressions.map .expression))
          (expressions.map .expression) := by
      rw [optionalClause, if_neg (by simpa using hempty), listClause, hoperands, joinedBrackets]
      simp [Function.comp_def, ClauseItem.ofPredicate]
    have hkeyword : part.keyword.toList.all Template.isPlain = true := by
      cases part <;> decide
    rw [hclause, Expression.renderInto_joinedBrackets part.keyword " and " rfl hkeyword (by decide),
      Expression.ofTemplate]
    rfl

/-- A clause of parts is its keyword and then the joined texts of the parts, and one without
parts is empty. -/
theorem optionalClause_rendered (part : PredicateClause) {expressions : List Expression}
    {session after : Session} {text : String}
    (h : (optionalClause part.keyword " and " (expressions.map .ofPredicate)).renderInto session =
      .ok (text, after)) :
    ∃ texts, renderItems (expressions.map .expression) .param session = .ok (texts, after) ∧
      text = if expressions.isEmpty then "" else part.keyword ++ Text.joined " and " texts := by
  rw [optionalClause_renderInto] at h
  cases htexts : renderItems (expressions.map .expression) .param session with
  | error error =>
    rw [htexts] at h
    cases h
  | ok result =>
    rw [htexts] at h
    cases h
    exact ⟨result.1, rfl, rfl⟩

/-- The text of a where or having clause says what its predicates say together. It is the
keyword followed by the fragments with junctions and parentheses between them, or nothing when
no predicate contributes. The fragments are those of the predicates, each rendered in the
session the ones before it leave, and whatever their truth is, the text read back is as true
as the conjunction of the predicates, where a group is the junction of what contributes in it. -/
theorem Statement.clause_says_predicates (s : Statement) (part : PredicateClause)
    (session after : Session) (e : Expression) (text : String)
    (hclause : s.clause session.dialect part.clause = .ok e)
    (hrender : e.renderInto session = .ok (text, after)) :
    ∃ symbols : List (Symbol Predicate),
      text = (if (part.predicates s).any Predicate.contributes then
        part.keyword ++ Symbol.spelled symbols else "") ∧
      (Symbol.atoms symbols).map (·.1) = Predicate.allLeaves (part.predicates s) ∧
      RenderedInTurn session (Symbol.atoms symbols) after ∧
      ∀ truth, (Symbol.read symbols).map (·.holds truth) =
        Junction.verdict? .and (Predicate.verdicts truth (part.predicates s)) := by
  have hpredicates :
      predicateClause part.keyword (part.predicates s) session.dialect = .ok e := by
    cases part <;> exact hclause
  rw [predicateClause] at hpredicates
  split at hpredicates
  · rename_i expressions hexpressions
    cases hpredicates
    obtain ⟨texts, hitems, rfl⟩ := optionalClause_rendered part hrender
    obtain ⟨operands, hback, hverdicts⟩ := Predicate.readBack_all _ hexpressions hitems
    have hlength : operands.length = expressions.length := by
      rw [← List.length_map (f := fun operand : ReadOperand => Symbol.spelled operand.1),
        hback.spelled, renderItems_length hitems, List.length_map]
    have hcontributes : (part.predicates s).any Predicate.contributes = !expressions.isEmpty := by
      rw [Predicate.any_contributes, ← Predicate.isEmpty_verdicts fun _ => true, hverdicts]
      cases operands <;> cases expressions <;> simp_all
    have horigins := hback.origins
    have hinTurn := hback.inTurn
    rw [← List.flatMap_map, ← Symbol.atoms_chained .and] at horigins hinTurn
    refine ⟨chained .and (operands.map (·.1)), ?_, horigins, hinTurn, fun truth => ?_⟩
    · rw [hcontributes, Symbol.spelled_chained, List.map_map, ← hback.spelled]
      cases expressions <;> rfl
    · rw [hverdicts]
      cases operands with
      | nil => rfl
      | cons first rest =>
        rw [Symbol.read_chained .and first rest hback.readable, Option.map_some,
          holds_chain_of_start]
        rfl
  · cases hpredicates

/-- A clause of two alternatives, an empty group and a third predicate reads as the
alternatives together with the third. -/
theorem clause_says_alternatives :
    ∃ symbols : List (Symbol Predicate),
      " where ('p' or 'q') and 'r'" = " where " ++ Symbol.spelled symbols ∧
      ∀ truth, (Symbol.read symbols).map (·.holds truth) =
        some ((truth (.fragment (.text "p")) || truth (.fragment (.text "q"))) &&
          truth (.fragment (.text "r"))) := by
  have hleaf (text : String) :
      (Argument.expression (.ofTemplate "[]" [.text text])).renderInto .param
        (.inspecting .generic) = .ok ((Value.string text).literal, .inspecting .generic) := by
    rw [Argument.renderInto, Expression.renderInto_joinedBrackets "" "" rfl rfl rfl]
    simp [Expression.ofTemplate, renderItems, Argument.text, Argument.renderInto,
      Session.writeValue, Session.bind, Session.inspecting, Except.map, Text.joined]
  have hgroup : (Argument.expression ⟨some "[] or []",
      [.expression (.ofTemplate "[]" [.text "p"]), .expression (.ofTemplate "[]" [.text "q"])],
      [], true⟩).renderInto .param (.inspecting .generic) =
        .ok ("('p' or 'q')", .inspecting .generic) := by
    rw [Argument.renderInto, Expression.renderInto_joinedBrackets "" " or " rfl rfl (by decide)]
    simp only [renderItems, hleaf]
    rfl
  have hrender : (Expression.ofTemplate " where [] and []"
      [.expression ⟨some "[] or []",
        [.expression (.ofTemplate "[]" [.text "p"]), .expression (.ofTemplate "[]" [.text "q"])],
        [], true⟩, .expression (.ofTemplate "[]" [.text "r"])]).renderInto (.inspecting .generic) =
      .ok (" where ('p' or 'q') and 'r'", .inspecting .generic) := by
    rw [Expression.renderInto_joinedBrackets " where " " and " rfl (by decide) (by decide)]
    rw [Expression.ofTemplate]
    simp only [renderItems, hgroup, hleaf]
    rfl
  obtain ⟨symbols, htext, -, -, hread⟩ := Statement.clause_says_predicates
    { dialect := .generic
      wheres :=
        [.group .or [.fragment (.text "p"), .fragment (.text "q")], .group .and [],
          .fragment (.text "r")] }
    .wheres (.inspecting .generic) _ _ _ rfl hrender
  refine ⟨symbols, htext, fun truth => (hread truth).trans ?_⟩
  simp [PredicateClause.predicates, Predicate.verdicts, Predicate.verdict?, Junction.verdict?,
    Junction.decides]

end ScopeQuery
