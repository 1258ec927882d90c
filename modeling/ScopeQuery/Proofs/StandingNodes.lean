import Mathlib.Logic.Relation
import ScopeQuery.Proofs.BoundLimits
import ScopeQuery.Proofs.WrittenValues

/-!
# Nodes in the text of others

What stands in a node when it is written in a dialect: the arguments of the tags of an expression,
the items of a list, a sub-query, and the clauses of a statement, down to any depth. Each of them
is written as it is alone in the same dialect, and its pieces are found in those of the whole. So
the dialect of the whole decides how names are quoted, which template a statement has, how rows
are limited and how operators are spelled, wherever that is in it.
-/

namespace ScopeQuery

/-! ### Nodes -/

/-- A node in its place: an argument of a tag, an expression or a statement. -/
inductive PlacedNode where
  /-- An argument in the place of a tag of a style. -/
  | inTag (argument : Argument) (style : TagStyle)
  /-- An expression. -/
  | expression (e : Expression)
  /-- A statement. -/
  | statement (s : Statement)

namespace PlacedNode

/-- The text of a node in a session. -/
def renderInto : PlacedNode → Session → Rendering
  | .inTag argument style => argument.renderInto style
  | .expression e => e.renderInto
  | .statement s => s.renderInto

/-- What a node comes to in a dialect. -/
def written (dialect : Dialect) : PlacedNode → Except QueryError (List Piece)
  | .inTag argument style => argument.written style dialect
  | .expression e => e.written dialect
  | .statement s => s.written dialect

/-- A node is rendered as it is written in the dialect of the session. -/
theorem renderInto_eq_written (node : PlacedNode) (session : Session) :
    node.renderInto session = (node.written session.dialect).map session.write := by
  cases node with
  | inTag argument style => exact argument.renderInto_settles style session.dialect session rfl
  | expression e => exact e.renderInto_settles session.dialect session rfl
  | statement s => exact s.renderInto_settles session.dialect session rfl

/-- A node that stands in another one with no node between them, when this is written in the
dialect. -/
inductive DirectlyIn (dialect : Dialect) : PlacedNode → PlacedNode → Prop where
  /-- An expression in the place of a tag. -/
  | expression (e : Expression) (style : TagStyle) :
      DirectlyIn dialect (.expression e) (.inTag (.expression e) style)
  /-- A sub-query in the place of a tag. -/
  | statement (s : Statement) (style : TagStyle) :
      DirectlyIn dialect (.statement s) (.inTag (.statement s) style)
  /-- An item of a list in the place of a tag. -/
  | item {argument : Argument} {items : List Argument} (h : argument ∈ items) (style : TagStyle) :
      DirectlyIn dialect (.inTag argument style) (.inTag (.list items) style)
  /-- The argument of a tag of an expression's template. -/
  | operand {e : Expression} {template : String} {target : TagTarget} {style : TagStyle}
      {argument : Argument} (htemplate : e.template = some template)
      (htag : .tag target style ∈ Template.tokenize template)
      (hargument : e.argument? target = some argument) :
      DirectlyIn dialect (.inTag argument style) (.expression e)
  /-- A clause that the template of a statement's mode names. -/
  | clause {s : Statement} {part : Clause} {e : Expression} (hnamed : part ∈ s.mode.clauses dialect)
      (hclause : s.clause dialect part = .ok e) : DirectlyIn dialect (.expression e) (.statement s)

/-- A node that stands in another one, or is this one. -/
abbrev StandsIn (dialect : Dialect) : PlacedNode → PlacedNode → Prop :=
  Relation.ReflTransGen (DirectlyIn dialect)

end PlacedNode

/-! ### Pieces in pieces -/

/-- What is put in parentheses is found there. -/
theorem infix_parenthesized (pieces : List Piece) : pieces <:+: parenthesized pieces :=
  ⟨[.text "("], [.text ")"], by simp [parenthesized]⟩

/-- Each of several lists of pieces is found where they are joined. -/
theorem infix_joinedPieces {separator : String} {pieces : List Piece} {groups : List (List Piece)}
    (h : pieces ∈ groups) : pieces <:+: joinedPieces separator groups := by
  induction groups with
  | nil => cases h
  | cons group rest ih =>
    cases rest with
    | nil =>
      obtain rfl := List.mem_singleton.1 h
      exact List.infix_refl _
    | cons next rest =>
      rw [joinedPieces]
      obtain rfl | h := List.mem_cons.1 h
      · exact (List.prefix_append _ _).isInfix
      · have hsuffix : joinedPieces separator (next :: rest) <:+
            group ++ .text separator :: joinedPieces separator (next :: rest) :=
          ⟨group ++ [.text separator], by simp⟩
        exact (ih h).trans hsuffix.isInfix

/-- What a tag comes to is found in the filled template. -/
theorem exists_infix_filled {tagWritten : TagTarget → TagStyle → Except QueryError (List Piece)}
    {target : TagTarget} {style : TagStyle} {parts : List Segment} {pieces : List Piece}
    (htag : .tag target style ∈ parts) (h : filled tagWritten parts = .ok pieces) :
    ∃ part, tagWritten target style = .ok part ∧ part <:+: pieces := by
  induction parts generalizing pieces with
  | nil => cases htag
  | cons segment rest ih =>
    cases segment with
    | text text =>
      obtain ⟨tail, hfilled, rfl⟩ := exists_ok_of_map h
      obtain htag | htag := List.mem_cons.1 htag
      · cases htag
      · obtain ⟨part, hpart, hinfix⟩ := ih htag hfilled
        exact ⟨part, hpart, hinfix.trans (List.suffix_cons _ _).isInfix⟩
    | tag other otherStyle =>
      obtain ⟨first, tail, hfirst, hfilled, rfl⟩ := exists_of_inTurn h
      obtain htag | htag := List.mem_cons.1 htag
      · cases htag
        exact ⟨first, hfirst, (List.prefix_append _ _).isInfix⟩
      · obtain ⟨part, hpart, hinfix⟩ := ih htag hfilled
        exact ⟨part, hpart, hinfix.trans (List.suffix_append _ _).isInfix⟩

/-- Each of several arguments that are written is among what they come to. -/
theorem exists_mem_itemsWritten {dialect : Dialect} {argument : Argument} {items : List Argument}
    {style : TagStyle} {groups : List (List Piece)} (hmem : argument ∈ items)
    (h : itemsWritten items style dialect = .ok groups) :
    ∃ part ∈ groups, argument.written style dialect = .ok part := by
  induction items generalizing groups with
  | nil => cases hmem
  | cons item rest ih =>
    rw [itemsWritten] at h
    obtain ⟨first, following, hfirst, hfollowing, rfl⟩ := exists_of_inTurn h
    obtain rfl | hmem := List.mem_cons.1 hmem
    · exact ⟨first, List.mem_cons_self, hfirst⟩
    · obtain ⟨part, hpart, hwritten⟩ := ih hmem hfollowing
      exact ⟨part, List.mem_cons_of_mem _ hpart, hwritten⟩

/-- A clause that the template of a mode names is found in the statement. -/
theorem exists_infix_clause {dialect : Dialect} {s : Statement} {part : Clause}
    {pieces : List Piece} (hnamed : part ∈ s.mode.clauses dialect)
    (h : s.written dialect = .ok pieces) :
    ∃ found, s.clauseWritten dialect part = .ok found ∧ found <:+: pieces := by
  have hnames : some part ∈ namedClauses (modeTemplate s.mode dialect) := by
    rw [namedClauses_modeTemplate]
    exact List.mem_map_of_mem hnamed
  obtain ⟨⟨target, style⟩, htag, htarget⟩ := List.mem_map.1 hnames
  rw [Statement.written_eq_filled] at h
  obtain ⟨found, hfound, hinfix⟩ := exists_infix_filled (Template.mem_tags.1 htag) h
  dsimp only at htarget
  rw [Statement.tagWritten, htarget] at hfound
  exact ⟨found, hfound, hinfix⟩

namespace PlacedNode

variable {dialect : Dialect} {inner outer : PlacedNode} {pieces : List Piece}

/-- A node that stands directly in a node that is written is written as it is alone, and found
there. -/
theorem DirectlyIn.exists_infix (h : inner.DirectlyIn dialect outer)
    (hwritten : outer.written dialect = .ok pieces) :
    ∃ part, inner.written dialect = .ok part ∧ part <:+: pieces := by
  cases h with
  | expression e style =>
    rw [PlacedNode.written, Argument.written] at hwritten
    split at hwritten
    · obtain ⟨part, hpart, rfl⟩ := exists_ok_of_map hwritten
      exact ⟨part, hpart, infix_parenthesized part⟩
    · exact ⟨pieces, hwritten, List.infix_refl pieces⟩
  | statement s style =>
    rw [PlacedNode.written, Argument.written] at hwritten
    obtain ⟨part, hpart, rfl⟩ := exists_ok_of_map hwritten
    exact ⟨part, hpart, infix_parenthesized part⟩
  | item hmem style =>
    rw [PlacedNode.written, Argument.written] at hwritten
    obtain ⟨groups, hgroups, rfl⟩ := exists_ok_of_map hwritten
    obtain ⟨part, hpart, hitem⟩ := exists_mem_itemsWritten hmem hgroups
    exact ⟨part, hitem, (infix_joinedPieces hpart).trans (infix_parenthesized _)⟩
  | @operand e template target style argument htemplate htag hargument =>
    rw [PlacedNode.written, Expression.written_of_template htemplate] at hwritten
    obtain ⟨part, hpart, hinfix⟩ := exists_infix_filled htag hwritten
    rw [Expression.tagWritten, hargument] at hpart
    exact ⟨part, hpart, hinfix⟩
  | clause hnamed hclause =>
    obtain ⟨part, hpart, hinfix⟩ := exists_infix_clause hnamed hwritten
    rw [Statement.clauseWritten, hclause] at hpart
    exact ⟨part, hpart, hinfix⟩

/-- A node that stands in a node that is written is written as it is alone, and found there. -/
theorem StandsIn.exists_infix (h : inner.StandsIn dialect outer)
    (hwritten : outer.written dialect = .ok pieces) :
    ∃ part, inner.written dialect = .ok part ∧ part <:+: pieces := by
  induction h generalizing pieces with
  | refl => exact ⟨pieces, hwritten, List.infix_refl pieces⟩
  | tail _ hdirect ih =>
    obtain ⟨middle, hmiddle, houter⟩ := hdirect.exists_infix hwritten
    obtain ⟨part, hpart, hinner⟩ := ih hmiddle
    exact ⟨part, hpart, hinner.trans houter⟩

/-! ### What stands in clauses -/

/-- The argument at a position stands in an expression whose tag of that position has a style. -/
theorem DirectlyIn.of_placed {template : String} {styles : List TagStyle}
    (htags : Template.tags (Template.tokenize template) = Template.placed 0 styles)
    {operands : List Argument} {wrapped : Bool} {i : Nat} {style : TagStyle} {argument : Argument}
    (hstyle : styles[i]? = some style) (hargument : operands[i]? = some argument) :
    DirectlyIn dialect (.inTag argument style)
      (.expression ⟨some template, operands, [], wrapped⟩) := by
  have htag : (.position i, style) ∈ Template.tags (Template.tokenize template) := by
    rw [htags]
    simpa using Template.mem_placed 0 hstyle
  exact .operand rfl (Template.mem_tags.1 htag) hargument

/-- An argument among parts stands in the expression of the parts. -/
theorem DirectlyIn.of_parts {parts : List ItemPart} {style : TagStyle} {argument : Argument}
    (hplain : ∀ part ∈ parts, part.isPlain = true) (h : .operand style argument ∈ parts) :
    DirectlyIn dialect (.inTag argument style) (.expression (.ofParts parts)) := by
  obtain ⟨i, hstyle, hargument⟩ : ∃ i : Nat, (partsStyles parts)[i]? = some style ∧
      (partsOperands parts)[i]? = some argument := by
    clear hplain
    induction parts with
    | nil => cases h
    | cons part rest ih =>
      cases part with
      | words text =>
        exact ih (by simpa using h)
      | operand first other =>
        obtain h | h := List.mem_cons.1 h
        · cases h
          exact ⟨0, rfl, rfl⟩
        · obtain ⟨i, hfound⟩ := ih h
          exact ⟨i + 1, hfound⟩
  exact .of_placed (hasUnnamed_partsTemplate hplain).tags_tokenize hstyle hargument

/-- What stands in an item of a list clause stands in the statement. -/
theorem StandsIn.of_item {s : Statement} {list : ListClause}
    (hnamed : list.clause ∈ s.mode.clauses dialect) {found : List (List ItemPart)}
    (hfound : list.items s dialect = .ok found) {item : List ItemPart} (hitem : item ∈ found)
    {style : TagStyle} {argument : Argument} (h : .operand style argument ∈ item) :
    StandsIn dialect (.inTag argument style) (.statement s) := by
  have hclause : s.clause dialect list.clause = .ok (.ofParts (list.parts s dialect found)) := by
    rw [ListClause.clause_eq, hfound]
    rfl
  have hparts : .operand style argument ∈ list.parts s dialect found := by
    rw [ListClause.parts, if_neg (by simpa using List.ne_nil_of_mem hitem)]
    exact List.mem_cons_of_mem _ (mem_joinedParts hitem h)
  exact .head (.of_parts (ListClause.isPlain_parts hfound) hparts)
    (.single (.clause hnamed hclause))

/-! ### Predicates -/

/-- A comparison with a value that is neither null nor a list is spelled by its operator. -/
theorem toExpression_of_scalar {field value : Argument} {operator : Option Operator}
    (hnull : value.isNull = false) (hlist : value.isList = false) :
    (Predicate.comparison field operator value).toExpression dialect =
      .ok (some (.ofTemplate (comparisonTemplate (operator.getD .eq) dialect)
        [field, comparedValue (operator.getD .eq) value])) := by
  simp [Predicate.toExpression, comparisonExpression, hnull, hlist]

/-- Each of joined parts stands in the whole. -/
theorem exists_joinParts (junction : Junction) {parts : List Expression} {part : Expression}
    (h : part ∈ parts) : ∃ e, joinParts junction parts = some e ∧
      StandsIn dialect (.expression part) (.expression e) := by
  match parts with
  | [] => cases h
  | [single] =>
    obtain rfl := List.mem_singleton.1 h
    exact ⟨part, rfl, .refl⟩
  | first :: next :: rest =>
    obtain ⟨i, hi, hpart⟩ := List.getElem_of_mem h
    have hstyle : (List.replicate (first :: next :: rest).length [TagStyle.param]).flatten[i]? =
        some .param := by
      rw [List.flatten_replicate_singleton, List.getElem?_replicate, if_pos hi]
    have hjunction : (" " ++ junction.sql ++ " ").toList.all Template.isPlain = true := by
      cases junction <;> decide
    have hunnamed := Template.HasUnnamed.brackets.joined hjunction (first :: next :: rest).length
    rw [← List.map_const'] at hunnamed
    have hargument : ((first :: next :: rest).map Argument.expression)[i]? =
        some (.expression part) := by
      rw [List.getElem?_map, List.getElem?_eq_getElem hi, hpart]
      rfl
    exact ⟨_, rfl, .head (.expression part .param)
      (.single (.of_placed hunnamed.tags_tokenize hstyle hargument))⟩

mutual

/-- The expression of a fragment of a predicate stands in that of the predicate. -/
theorem exists_expression_of_mem_leaves {predicate leaf : Predicate} {made : Option Expression}
    (hmade : predicate.toExpression dialect = .ok made) (h : leaf ∈ predicate.leaves) :
    ∃ e whole, leaf.toExpression dialect = .ok (some e) ∧ made = some whole ∧
      StandsIn dialect (.expression e) (.expression whole) := by
  match predicate with
  | .comparison field operator value =>
    obtain rfl := List.mem_singleton.1 h
    have hcomparison := hmade
    rw [Predicate.toExpression] at hcomparison
    split at hcomparison
    · rename_i e _
      obtain rfl := Except.ok.inj hcomparison
      exact ⟨e, e, hmade, rfl, .refl⟩
    · cases hcomparison
  | .fragment argument =>
    obtain rfl := List.mem_singleton.1 h
    obtain rfl := Except.ok.inj hmade
    exact ⟨_, _, rfl, rfl, .refl⟩
  | .group junction predicates =>
    rw [Predicate.toExpression] at hmade
    split at hmade
    · rename_i parts hparts
      obtain ⟨e, part, hpart, hleaf, hstands⟩ := exists_expression_of_mem_allLeaves hparts h
      obtain ⟨whole, hwhole, hjoined⟩ := exists_joinParts junction hpart
      exact ⟨e, whole, hleaf, (Except.ok.inj hmade).symm.trans hwhole, hstands.trans hjoined⟩
    · cases hmade

/-- The expression of a fragment of several predicates stands in that of one of them. -/
theorem exists_expression_of_mem_allLeaves {predicates : List Predicate} {leaf : Predicate}
    {parts : List Expression} (hmade : predicateExpressions dialect predicates = .ok parts)
    (h : leaf ∈ Predicate.allLeaves predicates) :
    ∃ e, ∃ part ∈ parts, leaf.toExpression dialect = .ok (some e) ∧
      StandsIn dialect (.expression e) (.expression part) := by
  match predicates with
  | [] => cases h
  | predicate :: rest =>
    rw [predicateExpressions] at hmade
    split at hmade
    · cases hmade
    · rename_i first hfirst
      split at hmade
      · cases hmade
      · rename_i following hfollowing
        obtain rfl := Except.ok.inj hmade
        obtain h | h := List.mem_append.1 h
        · obtain ⟨e, whole, hleaf, rfl, hstands⟩ := exists_expression_of_mem_leaves hfirst h
          exact ⟨e, whole, List.mem_cons_self, hleaf, hstands⟩
        · obtain ⟨e, part, hpart, hleaf, hstands⟩ :=
            exists_expression_of_mem_allLeaves hfollowing h
          exact ⟨e, part, List.mem_append_right _ hpart, hleaf, hstands⟩

end

/-- The expression of a fragment of a clause of predicates stands in the statement. -/
theorem exists_expression_of_clause {s : Statement} {part : PredicateClause} {leaf : Predicate}
    (hnamed : part.clause ∈ s.mode.clauses dialect)
    (hleaf : leaf ∈ Predicate.allLeaves (part.predicates s))
    (hwritten : s.written dialect = .ok pieces) :
    ∃ e, leaf.toExpression dialect = .ok (some e) ∧
      StandsIn dialect (.expression e) (.statement s) := by
  obtain ⟨list, hlist, hitems⟩ : ∃ list : ListClause, list.clause = part.clause ∧
      list.items s dialect = predicateItems dialect (part.predicates s) := by
    cases part with
    | wheres => exact ⟨.wheres, rfl, rfl⟩
    | havings => exact ⟨.havings, rfl, rfl⟩
  rw [← hlist] at hnamed
  obtain ⟨clausePieces, hclause, -⟩ := exists_infix_clause hnamed hwritten
  rw [Statement.clauseWritten, ListClause.clause_eq, hitems, predicateItems] at hclause
  cases hmade : predicateExpressions dialect (part.predicates s) with
  | error error =>
    rw [hmade] at hclause
    cases hclause
  | ok parts =>
    obtain ⟨e, whole, hwhole, hexpression, hstands⟩ :=
      exists_expression_of_mem_allLeaves hmade hleaf
    have hfound : list.items s dialect =
        .ok (parts.map fun e => operandItem .param (.expression e)) := by
      rw [hitems, predicateItems, hmade]
      rfl
    have hitem := StandsIn.of_item hnamed hfound (List.mem_map_of_mem hwhole)
      (List.mem_singleton_self _)
    exact ⟨e, hexpression, hstands.trans (.head (.expression whole .param) hitem)⟩

/-- The value of a comparison in a clause of predicates stands in the statement. -/
theorem StandsIn.of_comparison {s : Statement} {part : PredicateClause} {field value : Argument}
    {operator : Option Operator} (hnamed : part.clause ∈ s.mode.clauses dialect)
    (hleaf : .comparison field operator value ∈ Predicate.allLeaves (part.predicates s))
    (hnull : value.isNull = false) (hlist : value.isList = false)
    (hwritten : s.written dialect = .ok pieces) :
    StandsIn dialect (.inTag (comparedValue (operator.getD .eq) value) .param) (.statement s) := by
  obtain ⟨e, he, hstands⟩ := exists_expression_of_clause hnamed hleaf hwritten
  rw [toExpression_of_scalar hnull hlist] at he
  obtain rfl := Option.some.inj (Except.ok.inj he)
  have hstyle : [TagStyle.soft, .param][1]? = some .param := rfl
  exact .head (.of_placed (tags_comparisonTemplate _ dialect) hstyle rfl) hstands

/-! ### The dialect of the whole -/

/-- The pieces of a node follow a dialect: so does everything that stands in the node. -/
structure Follows (dialect : Dialect) (outer : PlacedNode) (pieces : List Piece) : Prop where
  /-- Every node in it is written as it is alone in the dialect. -/
  nodes {inner : PlacedNode} (h : inner.StandsIn dialect outer) :
    ∃ part, inner.written dialect = .ok part ∧ part <:+: pieces
  /-- Names are quoted as the dialect quotes them. -/
  names {name : Value} (h : StandsIn dialect (.inTag (.literal name) .identifier) outer) :
    [.text (quoteIdentifier dialect name.text)] <:+: pieces
  /-- So are names that may be more than a name. -/
  softNames {name : Value} (h : StandsIn dialect (.inTag (.literal name) .soft) outer) :
    [.text (softIdentifier dialect name.text)] <:+: pieces
  /-- A statement has the template that its mode has in the dialect. -/
  modes {s : Statement} (h : StandsIn dialect (.statement s) outer) :
    ∃ part, filled (s.tagWritten dialect) (Template.tokenize (modeTemplate s.mode dialect)) =
      .ok part ∧ part <:+: pieces
  /-- Its rows are limited in the words of the dialect. -/
  limits {s : Statement} {limit : RowLimit} (h : StandsIn dialect (.statement s) outer)
    (hlimit : s.limit = some limit) (hnamed : .limit ∈ s.mode.clauses dialect) :
    limit.pieces dialect <:+: pieces
  /-- The operators of its comparisons are spelled as the dialect spells them. -/
  operators {s : Statement} {clause : PredicateClause} {field value : Argument}
    {operator : Option Operator} (h : StandsIn dialect (.statement s) outer)
    (hnamed : clause.clause ∈ s.mode.clauses dialect)
    (hleaf : .comparison field operator value ∈ Predicate.allLeaves (clause.predicates s))
    (hnull : value.isNull = false) (hlist : value.isList = false) :
    ∃ part, Expression.written (.ofTemplate (comparisonTemplate (operator.getD .eq) dialect)
      [field, comparedValue (operator.getD .eq) value]) dialect = .ok part ∧ part <:+: pieces

/-- The pieces of a node that is written in a dialect follow the dialect. -/
theorem follows (h : outer.written dialect = .ok pieces) : outer.Follows dialect pieces where
  nodes hstands := hstands.exists_infix h
  names hstands := by
    obtain ⟨part, hpart, hinfix⟩ := hstands.exists_infix h
    rw [PlacedNode.written, Argument.written] at hpart
    obtain rfl := Except.ok.inj hpart
    exact hinfix
  softNames hstands := by
    obtain ⟨part, hpart, hinfix⟩ := hstands.exists_infix h
    rw [PlacedNode.written, Argument.written] at hpart
    obtain rfl := Except.ok.inj hpart
    exact hinfix
  modes hstands := by
    obtain ⟨part, hpart, hinfix⟩ := hstands.exists_infix h
    rw [PlacedNode.written, Statement.written_eq_filled] at hpart
    exact ⟨part, hpart, hinfix⟩
  limits hstands hlimit hnamed := by
    obtain ⟨part, hpart, hinfix⟩ := hstands.exists_infix h
    obtain ⟨found, hfound, hlimited⟩ := exists_infix_clause hnamed hpart
    rw [Statement.clauseWritten_limit hlimit] at hfound
    obtain rfl := Except.ok.inj hfound
    exact hlimited.trans hinfix
  operators hstands hnamed hleaf hnull hlist := by
    obtain ⟨whole, hwhole, hinfix⟩ := hstands.exists_infix h
    obtain ⟨e, he, hcompared⟩ := exists_expression_of_clause hnamed hleaf hwhole
    obtain ⟨part, hpart, hfound⟩ := hcompared.exists_infix hwhole
    rw [toExpression_of_scalar hnull hlist] at he
    obtain rfl := Option.some.inj (Except.ok.inj he)
    exact ⟨part, hpart, hfound.trans hinfix⟩

end PlacedNode

end ScopeQuery
