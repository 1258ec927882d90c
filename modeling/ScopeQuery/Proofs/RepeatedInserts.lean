import ScopeQuery.Proofs.BoundLimits
import ScopeQuery.Proofs.ParameterSubstitution
import ScopeQuery.Proofs.QuotedLiterals

/-!
# Repeated inserts

One dialect adds a row in two attempts, the second of them for a key that the server would assign.
Its template spells the insert twice, so every clause is built and rendered again behind the
parameters of the first attempt. Rendering is settled before the session starts, so the second
attempt writes the same pieces: it differs from the first in the numbers of its placeholders alone,
and binds the same values in the same order.
-/

namespace ScopeQuery

/-! ### Filling a template part by part -/

namespace Template

/-- A name in brackets is a tag. -/
theorem lexemes_named {name : List Char} (hname : name.all Unicode.isWord = true)
    (rest : List Char) :
    lexemes ('[' :: (name ++ ']' :: rest)) = .tag .param name :: lexemes rest := by
  have hclose : Unicode.isWord ']' = false := rfl
  have hspan : spanName (name ++ ']' :: rest) = (name, ']' :: rest) := by
    rw [List.all_eq_true] at hname
    rw [spanName, List.takeWhile_append_of_pos hname, List.dropWhile_append_of_pos hname,
      List.takeWhile_cons_of_neg (by simp [hclose]), List.dropWhile_cons_of_neg (by simp [hclose]),
      List.append_nil]
  rw [lexemes]
  simp [lexeme, isQuote, plainTag?, hspan]

end Template

section Filling

variable (renderTag : TagTarget → TagStyle → Session → Rendering)

/-- Segments joined to those behind them are filled as the segments in front of these. -/
theorem fill_foldr_onto (parts rest : List Segment) :
    fill renderTag (parts.foldr Segment.onto rest) = fill renderTag (parts ++ rest) := by
  induction parts with
  | nil => rfl
  | cons part parts ih =>
    have hjoined (rest : List Segment) (session : Session) :
        fill renderTag (part.onto rest) session = fill renderTag ([part] ++ rest) session := by
      unfold Segment.onto
      split
      · rw [fill, List.singleton_append, fill, fill]
        cases fill renderTag _ session with
        | error error => rfl
        | ok result => simp only [String.append_assoc]
      · rfl
    funext session
    rw [List.foldr_cons, hjoined, fill_append, ih, ← fill_append]
    rfl

/-- A template is filled up to a place outside of its tags, and then behind it, when the tags in
front have names. -/
theorem fill_tokenize_append {lead : String} (hlead : Template.endsOutside lead.toList = true)
    (hnamed : Template.positions (Template.tokenize lead) = []) (rest : String) :
    fill renderTag (Template.tokenize (lead ++ rest)) =
      fill renderTag (Template.tokenize lead ++ Template.tokenize rest) := by
  rw [Template.tokenize] at hnamed
  rw [← fill_foldr_onto, Template.tokenize, Template.tokenize, String.toList_append,
    Template.lexemes_append_of_endsOutside hlead, Template.segments_append, hnamed]
  rfl

/-- A plain text goes in front of what is filled in behind it. -/
theorem fill_plain_append {text : String} (hplain : text.toList.all Template.isPlain = true)
    (rest : String) (session : Session) :
    fill renderTag (Template.tokenize (text ++ rest)) session =
      (fill renderTag (Template.tokenize rest) session).behind text := by
  rw [Template.tokenize, String.toList_append, Template.lexemes_append_of_isPlain hplain,
    fill_chars, String.ofList_toList]
  rfl

/-- A named tag that leaves the session as it is goes in front of what is filled in behind it. -/
theorem fill_named_append {tag name : String} (htag : tag.toList = '[' :: (name.toList ++ [']']))
    (hname : name.toList.all Unicode.isWord = true) (hnonempty : name.toList ≠ []) {text : String}
    {session : Session} (hrender : renderTag (.name name) .param session = .ok (text, session))
    (rest : String) :
    fill renderTag (Template.tokenize (tag ++ rest)) session =
      (fill renderTag (Template.tokenize rest) session).behind text := by
  have hlexemes : Template.lexemes (tag ++ rest).toList =
      .tag .param name.toList :: Template.lexemes rest.toList := by
    rw [String.toList_append, htag, List.cons_append, List.append_assoc, List.singleton_append,
      Template.lexemes_named hname]
  rw [Template.tokenize, hlexemes, Template.segments, if_neg (by simpa using hnonempty),
    String.ofList_toList, fill, hrender]
  dsimp only
  rw [Template.tokenize]
  cases fill renderTag _ session <;> rfl

section Joined

variable {renderTag} {tag name : String} (htag : tag.toList = '[' :: (name.toList ++ [']']))
  (hname : name.toList.all Unicode.isWord = true) (hnonempty : name.toList ≠ []) {text : String}
  {session : Session} (hrender : renderTag (.name name) .param session = .ok (text, session))
  {pieces : List String} (hplain : ∀ piece ∈ pieces, piece.toList.all Template.isPlain = true)
include htag hname hnonempty hrender hplain

/-- Plain texts with a tag between neighbours are filled with the text of the tag. -/
theorem fill_joined_append (rest : String) :
    fill renderTag (Template.tokenize (Text.joined tag pieces ++ rest)) session =
      (fill renderTag (Template.tokenize rest) session).behind (Text.joined text pieces) := by
  induction pieces with
  | nil => rw [Text.joined, Text.joined, String.empty_append, Rendering.behind_empty]
  | cons piece pieces ih =>
    obtain ⟨hpiece, hpieces⟩ := List.forall_mem_cons.1 hplain
    cases pieces with
    | nil => exact fill_plain_append renderTag hpiece rest session
    | cons next pieces =>
      rw [Text.joined, Text.joined, String.append_assoc, String.append_assoc,
        fill_plain_append renderTag hpiece,
        fill_named_append renderTag htag hname hnonempty hrender, ih hpieces,
        ← Rendering.behind_append, ← Rendering.behind_append, String.append_assoc]

/-- Plain texts with a tag between neighbours are a template of their own. -/
theorem fill_joined :
    fill renderTag (Template.tokenize (Text.joined tag pieces)) session =
      .ok (Text.joined text pieces, session) := by
  have hjoined := fill_joined_append htag hname hnonempty hrender hplain ""
  rw [String.append_empty, Template.tokenize_empty] at hjoined
  simpa [fill, Rendering.behind, Except.map] using hjoined

end Joined

end Filling

/-! ### The two attempts -/

namespace Statement

/-- One attempt at adding the row, as dialects with a single attempt write it. -/
def insertOnce (s : Statement) (session : Session) : Rendering :=
  fill (s.renderTag insertTemplate) (Template.tokenize insertTemplate) session

/-- One attempt is the template of one attempt, filled. -/
theorem insertOnce_eq_fill (s : Statement) :
    s.insertOnce = fill (s.renderTag insertTemplate) (Template.tokenize insertTemplate) :=
  funext fun _ => rfl

/-- What stands between the two attempts, cut where the table is named. -/
def betweenAttempts : List String :=
  ["; end try begin catch if ERROR_NUMBER() = 544 begin set IDENTITY_INSERT ", " on; begin try "]

/-- What stands behind the two attempts, cut where the table is named. -/
def behindAttempts : List String :=
  ["; set IDENTITY_INSERT ", " off; end try begin catch set IDENTITY_INSERT ",
    " off; throw; end catch end else begin throw; end end catch"]

/-- The text that adds a row in two attempts, given the table and the text of each attempt. -/
def retriedInsertText (table first second : String) : String :=
  "begin try " ++ (first ++ (Text.joined table betweenAttempts ++
    (second ++ Text.joined table behindAttempts)))

/-- The template of the two attempts has the tag of the table and the template of one attempt in
the places of their texts. -/
theorem modeTemplate_retriedInsert :
    modeTemplate .insert .mssql =
      retriedInsertText "[table_noalias]" insertTemplate insertTemplate := by
  have hbetween : Text.joined "[table_noalias]" betweenAttempts =
      "; end try begin catch if ERROR_NUMBER() = 544 begin " ++
        "set IDENTITY_INSERT [table_noalias] on; begin try " := rfl
  have hbehind : Text.joined "[table_noalias]" behindAttempts =
    "; set IDENTITY_INSERT [table_noalias] off; end try begin catch " ++
    "set IDENTITY_INSERT [table_noalias] off; throw; end catch end else begin throw; end end catch"
    := rfl
  have hassoc (a b c d e f : String) :
      a ++ b ++ c ++ d ++ b ++ e ++ f = a ++ (b ++ (c ++ d ++ (b ++ (e ++ f)))) := by
    simp only [String.append_assoc]
  rw [retriedInsertText, hbetween, hbehind]
  exact hassoc _ _ _ _ _ _

/-- The segments of one attempt. -/
theorem tokenize_insertTemplate :
    Template.tokenize insertTemplate =
      [.text "insert", .tag (.name "option") .param, .text " into ",
        .tag (.name "table_noalias") .param, .text " (", .tag (.name "set_fields") .param,
        .text ") values (", .tag (.name "set_values") .param, .text ")"] :=
  (Template.tokenize_ofList _).trans (by decide +kernel)

/-- An attempt does not depend on the template it is a part of. -/
theorem fill_insertTemplate (s : Statement) (template : String) :
    fill (s.renderTag template) (Template.tokenize insertTemplate) = s.insertOnce := by
  rw [insertOnce_eq_fill]
  refine fill_congr fun target style hmem => ?_
  obtain ⟨part, hpart⟩ : ∃ part, target.clause? = some part := by
    simp only [tokenize_insertTemplate, List.mem_cons, Segment.tag.injEq, reduceCtorEq, false_or,
      List.not_mem_nil, or_false] at hmem
    obtain ⟨rfl, -⟩ | ⟨rfl, -⟩ | ⟨rfl, -⟩ | ⟨rfl, -⟩ := hmem <;> exact ⟨_, rfl⟩
  rw [renderTag_of_clause hpart, renderTag_of_clause hpart]

/-- One attempt is filled as it is alone, in front of what is filled in behind it. -/
theorem fill_insertTemplate_append (s : Statement) (template rest : String) (session : Session) :
    fill (s.renderTag template) (Template.tokenize (insertTemplate ++ rest)) session =
      match s.insertOnce session with
      | .error error => .error error
      | .ok (text, after) =>
        (fill (s.renderTag template) (Template.tokenize rest) after).behind text := by
  have houtside : Template.endsOutside insertTemplate.toList = true :=
    Template.endsOutside_ofList rfl
  have hnamed : Template.positions (Template.tokenize insertTemplate) = [] := by
    rw [tokenize_insertTemplate]
    rfl
  rw [fill_tokenize_append _ houtside hnamed, fill_append, fill_insertTemplate]
  cases s.insertOnce session <;> rfl

/-- What stands in front of the attempts is plain text. -/
theorem plain_begin : "begin try ".toList.all Template.isPlain = true := by
  rw [String.toList_ofList]
  rfl

/-- What stands between the attempts is plain text but for the table. -/
theorem plain_betweenAttempts :
    ∀ piece ∈ betweenAttempts, piece.toList.all Template.isPlain = true := by
  rw [betweenAttempts, List.forall_mem_cons, List.forall_mem_cons, String.toList_ofList,
    String.toList_ofList]
  exact ⟨rfl, rfl, List.forall_mem_nil _⟩

/-- What stands behind the attempts is plain text but for the table. -/
theorem plain_behindAttempts :
    ∀ piece ∈ behindAttempts, piece.toList.all Template.isPlain = true := by
  rw [behindAttempts, List.forall_mem_cons, List.forall_mem_cons, List.forall_mem_cons,
    String.toList_ofList, String.toList_ofList, String.toList_ofList]
  exact ⟨rfl, rfl, rfl, List.forall_mem_nil _⟩

/-- One attempt is settled by the dialect. -/
theorem insertOnce_settled (s : Statement) (dialect : Dialect) : Settled dialect s.insertOnce := by
  rw [insertOnce_eq_fill]
  exact fill_settled (s.renderTag_settled insertTemplate dialect) _

/-- When a row that is added in two attempts is rendered, each attempt writes the same pieces. -/
theorem insertOnce_writes {s : Statement} (hmode : s.mode = .insert) {session : Session}
    (hdialect : session.dialect = .mssql) {result : String × Session}
    (hrender : s.renderInto session = .ok result) :
    ∃ pieces, ∀ session : Session, session.dialect = .mssql →
      s.insertOnce session = .ok (session.write pieces) := by
  obtain ⟨error, herror⟩ | hpieces := s.insertOnce_settled .mssql
  · -- A refused first attempt is the first thing that is refused.
    rw [renderInto_eq_fill, hmode, hdialect, modeTemplate_retriedInsert, retriedInsertText,
      fill_plain_append _ plain_begin, fill_insertTemplate_append,
      herror session hdialect] at hrender
    cases hrender
  · exact hpieces

section PlainTable

variable {s : Statement} {first : Source} {others : List Source} {name : String}
  (htables : s.tables = first :: others) (hplain : first.source = .text name)
include htables hplain

/-- A table that is a plain name is written as the name and binds nothing. -/
theorem renderTag_plainTable (template : String) (style : TagStyle) (session : Session) :
    s.renderTag template (.name "table_noalias") style session =
      .ok (softIdentifier session.dialect name, session) := by
  have hclause : s.clause session.dialect .tableNoAlias =
      .ok (.ofTemplate "\x7b\x7b\x7d\x7d" [.text name]) := by
    rw [clause, htables]
    dsimp only
    rw [hplain]
    rfl
  have htokens : Template.tokenize "\x7b\x7b\x7d\x7d" = [.tag (.position 0) .soft] :=
    (Template.tokenize_ofList _).trans (by decide +kernel)
  have hname : (Argument.text name).renderInto .soft session =
      .ok (softIdentifier session.dialect name, session) := by
    rw [Argument.text, Argument.renderInto]
    rfl
  have htag (template : String) : (Expression.ofTemplate "\x7b\x7b\x7d\x7d" [.text name]).renderTag
      template (.position 0) .soft session = .ok (softIdentifier session.dialect name, session) :=
    hname
  have hpart : TagTarget.clause? (.name "table_noalias") = some .tableNoAlias := rfl
  rw [renderTag_of_clause hpart, clauseRendering, hclause]
  dsimp only
  rw [Expression.renderInto_of_template rfl, htokens]
  simp only [fill, htag, String.append_empty]

/-- What stands around the attempts is filled with the name of the table. -/
theorem fill_aroundAttempts (template : String) {pieces : List String}
    (hpieces : ∀ piece ∈ pieces, piece.toList.all Template.isPlain = true) (session : Session) :
    (∀ rest, fill (s.renderTag template)
        (Template.tokenize (Text.joined "[table_noalias]" pieces ++ rest)) session =
      (fill (s.renderTag template) (Template.tokenize rest) session).behind
        (Text.joined (softIdentifier session.dialect name) pieces)) ∧
    fill (s.renderTag template) (Template.tokenize (Text.joined "[table_noalias]" pieces)) session =
      .ok (Text.joined (softIdentifier session.dialect name) pieces, session) := by
  have htag : "[table_noalias]".toList = '[' :: ("table_noalias".toList ++ [']']) := by simp
  have hname : "table_noalias".toList.all Unicode.isWord = true := rfl
  have hnonempty : "table_noalias".toList ≠ [] := by simp
  have hrender := renderTag_plainTable htables hplain template .param session
  exact ⟨fill_joined_append htag hname hnonempty hrender hpieces,
    fill_joined htag hname hnonempty hrender hpieces⟩

/-- Adding a row in two attempts writes the first attempt in the session, and the second in the
session that the first leaves. -/
theorem renderInto_retriedInsert (hmode : s.mode = .insert) {session : Session}
    (hdialect : session.dialect = .mssql) {pieces : List Piece}
    (hpieces : ∀ session : Session, session.dialect = .mssql →
      s.insertOnce session = .ok (session.write pieces)) :
    s.renderInto session =
      .ok (retriedInsertText (softIdentifier .mssql name) (session.write pieces).1
          ((session.write pieces).2.write pieces).1,
        ((session.write pieces).2.write pieces).2) := by
  have hbetween : (session.write pieces).2.dialect = .mssql :=
    (session.write_dialect pieces).trans hdialect
  have hafter : ((session.write pieces).2.write pieces).2.dialect = .mssql :=
    ((session.write pieces).2.write_dialect pieces).trans hbetween
  rw [renderInto_eq_fill, hmode, hdialect, modeTemplate_retriedInsert, retriedInsertText,
    fill_plain_append _ plain_begin, fill_insertTemplate_append, hpieces session hdialect]
  dsimp only
  rw [(fill_aroundAttempts htables hplain _ plain_betweenAttempts _).1, hbetween,
    fill_insertTemplate_append, hpieces _ hbetween]
  dsimp only
  rw [(fill_aroundAttempts htables hplain _ plain_behindAttempts _).2, hafter]
  rfl

end PlainTable

end Statement

/-! ### What is bound -/

/-- The values of parameters do not depend on the index from which these are named. -/
theorem boundParams_values (index : Nat) (holes : List (Value × String)) :
    (boundParams index holes).map (·.2) = holes.map (·.1) := by
  induction holes generalizing index with
  | nil => rfl
  | cons hole rest ih =>
    obtain ⟨value, text⟩ := hole
    rw [boundParams_cons, List.map_cons, List.map_cons, ih]

/-- Adding a row to a table with a plain name binds the same values in both attempts. The texts of
the attempts are one text with the placeholders of as many values in it, numbered in the second
attempt from where they end in the first. -/
theorem Statement.retriedInsert_binds_twice (s : Statement) (hmode : s.mode = .insert)
    {first : Source} {others : List Source} (htables : s.tables = first :: others) {name : String}
    (hplain : first.source = .text name) {session : Session} (hdialect : session.dialect = .mssql)
    {result : String × Session} (hrender : s.renderInto session = .ok result) :
    ∃ (lead : String) (holes : List (Value × String)),
      (∀ params, s.insertOnce ⟨.mssql, false, params⟩ =
        .ok (interleave lead (boundHoles params.length holes),
          ⟨.mssql, false, params ++ boundParams params.length holes⟩)) ∧
      (∀ params, s.renderInto ⟨.mssql, false, params⟩ =
        .ok (retriedInsertText (softIdentifier .mssql name)
            (interleave lead (boundHoles params.length holes))
            (interleave lead (boundHoles (params.length + holes.length) holes)),
          ⟨.mssql, false, params ++ (boundParams params.length holes ++
            boundParams (params.length + holes.length) holes)⟩)) ∧
      (∀ index, (boundParams index holes).map (·.2) = holes.map (·.1)) ∧
      (s.dialect = .mssql → ∃ query, s.render = .ok query ∧
        query.sql = retriedInsertText (softIdentifier .mssql name)
          (interleave lead (boundHoles 0 holes)) (interleave lead (boundHoles holes.length holes)) ∧
        query.params = boundParams 0 holes ++ boundParams holes.length holes ∧
        query.params.map (·.2) = holes.map (·.1) ++ holes.map (·.1)) := by
  obtain ⟨pieces, hpieces⟩ := insertOnce_writes hmode hdialect hrender
  have hboth (params : List (String × Value)) : s.renderInto ⟨.mssql, false, params⟩ =
      .ok (retriedInsertText (softIdentifier .mssql name)
          (interleave (leadText pieces) (boundHoles params.length (valueHoles pieces)))
          (interleave (leadText pieces)
            (boundHoles (params.length + (valueHoles pieces).length) (valueHoles pieces))),
        ⟨.mssql, false, params ++ (boundParams params.length (valueHoles pieces) ++
          boundParams (params.length + (valueHoles pieces).length) (valueHoles pieces))⟩) := by
    have hlength : (params ++ boundParams params.length (valueHoles pieces)).length =
        params.length + (valueHoles pieces).length := by simp [boundParams]
    rw [renderInto_retriedInsert htables hplain hmode rfl hpieces, Session.write_bound,
      Session.write_bound, hlength, List.append_assoc]
  refine ⟨leadText pieces, valueHoles pieces, fun params => ?_, hboth,
    fun index => boundParams_values index _, fun hown => ?_⟩
  · rw [hpieces _ rfl, Session.write_bound]
  · have hquery := hboth []
    rw [List.nil_append, List.length_nil, Nat.zero_add] at hquery
    refine ⟨_, by rw [render_eq_map, hown]; exact congrArg _ hquery, rfl, rfl, ?_⟩
    change List.map (·.2) (boundParams 0 _ ++ boundParams _ _) = _
    rw [List.map_append, boundParams_values, boundParams_values]

/-! ### A row of codes -/

/-- The statement that adds one row, with a list and an expression among its values. -/
def codeRow : Statement :=
  { dialect := .mssql
    givenMode := some .insert
    tables := [⟨none, .text "codes"⟩]
    assignments := [⟨"code", .list [.text "x", .text "y"]⟩,
      ⟨"name", .expression (.ofTemplate "upper([])" [.text "z"])⟩] }

/-- The pieces of one attempt at adding the row. -/
def codeRowPieces : List Piece :=
  [.text "insert into \"codes\" (\"code\", \"name\") values ((", .value (.string "x"), .text ", ",
    .value (.string "y"), .text "), upper(", .value (.string "z"), .text "))"]

/-- The fields of the row are written quoted. -/
theorem codeRow_fields (session : Session) (hdialect : session.dialect = .mssql) :
    codeRow.clauseRendering .setFields session = .ok ("\"code\", \"name\"", session) := by
  have hclause : codeRow.clause session.dialect .setFields =
      .ok (.ofTemplate "\x7b\x7b\x7d\x7d, \x7b\x7b\x7d\x7d" [.text "code", .text "name"]) := rfl
  have htokens : Template.tokenize "\x7b\x7b\x7d\x7d, \x7b\x7b\x7d\x7d" =
      [.tag (.position 0) .soft, .text ", ", .tag (.position 1) .soft] :=
    (Template.tokenize_ofList _).trans (by decide +kernel)
  have hname (name : String) : (Argument.text name).renderInto .soft session =
      .ok (softIdentifier .mssql name, session) := by
    rw [Argument.text, Argument.renderInto, ← hdialect]
    rfl
  have hcode : softIdentifier .mssql "code" = "\"code\"" := rfl
  have hsecond : softIdentifier .mssql "name" = "\"name\"" := rfl
  rw [Statement.clauseRendering, hclause]
  dsimp only
  rw [Expression.renderInto_of_template rfl, htokens]
  simp only [fill, Expression.renderTag, Expression.argument?, Expression.ofTemplate,
    List.getElem?_cons_zero, List.getElem?_cons_succ, hname, hcode, hsecond]
  rfl

/-- The values of the row are written as a list and as an expression. -/
theorem codeRow_values (session : Session) :
    codeRow.clauseRendering .setValues session =
      .ok (session.write [.text "(", .value (.string "x"), .text ", ", .value (.string "y"),
        .text "), upper(", .value (.string "z"), .text ")"]) := by
  have hclause : codeRow.clause session.dialect .setValues =
      .ok (.ofTemplate ("" ++ joinedBrackets ", " (codeRow.assignments.map (·.value)))
        (codeRow.assignments.map (·.value))) := rfl
  have hlist (session : Session) :
      (Argument.list [.text "x", .text "y"]).renderInto .param session =
        .ok (session.write [.text "(", .value (.string "x"), .text ", ", .value (.string "y"),
          .text ")"]) := by
    simp [Argument.text, Argument.renderInto, renderItems, Session.writeValue, Text.joined,
      Session.write, String.append_assoc]
  have hexpression (session : Session) :
      (Argument.expression (.ofTemplate "upper([])" [.text "z"])).renderInto .param session =
        .ok (session.write [.text "upper(", .value (.string "z"), .text ")"]) := by
    have htokens : Template.tokenize "upper([])" =
        [.text "upper(", .tag (.position 0) .param, .text ")"] :=
      (Template.tokenize_ofList _).trans (by decide +kernel)
    rw [Argument.renderInto, Expression.renderInto_of_template rfl, htokens]
    simp [fill, Expression.renderTag, Expression.argument?, Expression.ofTemplate, Argument.text,
      Argument.renderInto, Session.writeValue, Session.write]
  rw [Statement.clauseRendering, hclause]
  dsimp only
  rw [Expression.renderInto_joinedBrackets "" ", " rfl rfl (by decide)]
  have hitems : renderItems (codeRow.assignments.map (·.value)) .param session =
      .ok (session.writeAll [[.text "(", .value (.string "x"), .text ", ", .value (.string "y"),
        .text ")"], [.text "upper(", .value (.string "z"), .text ")"]]) := by
    simp only [codeRow, List.map_cons, List.map_nil, renderItems]
    rw [hlist]
    dsimp only
    rw [hexpression]
    rfl
  change (renderItems (codeRow.assignments.map (·.value)) .param session).map _ = _
  rw [hitems]
  simp [Except.map, Text.joined, Session.writeAll, Session.write, String.ext_iff]

/-- One attempt at adding the row writes these pieces. -/
theorem codeRow_insertOnce (session : Session) (hdialect : session.dialect = .mssql) :
    codeRow.insertOnce session = .ok (session.write codeRowPieces) := by
  have htag (tag : String) (part : Clause) (hpart : TagTarget.clause? (.name tag) = some part) :
      codeRow.renderTag insertTemplate (.name tag) .param = codeRow.clauseRendering part :=
    Statement.renderTag_of_clause hpart
  have hoptions (session : Session) :
      codeRow.clauseRendering .options session = .ok ("", session) :=
    emptyClause_renderInto session
  have hname : softIdentifier .mssql "codes" = "\"codes\"" := rfl
  have htables : codeRow.tables = [⟨none, .text "codes"⟩] := rfl
  have htable := Statement.renderTag_plainTable htables rfl insertTemplate .param session
  rw [hdialect, hname] at htable
  rw [Statement.insertOnce, Statement.tokenize_insertTemplate]
  simp only [fill, htag "option" .options rfl, hoptions, htable, htag "set_fields" .setFields rfl,
    codeRow_fields session hdialect, htag "set_values" .setValues rfl, codeRow_values]
  simp [codeRowPieces, Session.write, String.ext_iff]

/-- Adding the row in two attempts is rendered in a session of its own. -/
theorem codeRow_renderInto :
    codeRow.renderInto (.bound .mssql) = .ok
      (Statement.retriedInsertText "\"codes\""
          "insert into \"codes\" (\"code\", \"name\") values ((:a, :b), upper(:c))"
          "insert into \"codes\" (\"code\", \"name\") values ((:d, :e), upper(:f))",
        ⟨.mssql, false, [("a", .string "x"), ("b", .string "y"), ("c", .string "z"),
          ("d", .string "x"), ("e", .string "y"), ("f", .string "z")]⟩) := by
  have hname : softIdentifier .mssql "codes" = "\"codes\"" := rfl
  have hplaces : placeholderName 0 = "a" ∧ placeholderName 1 = "b" ∧ placeholderName 2 = "c" ∧
      placeholderName 3 = "d" ∧ placeholderName 4 = "e" ∧ placeholderName 5 = "f" := by
    decide +kernel
  obtain ⟨h0, h1, h2, h3, h4, h5⟩ := hplaces
  have htables : codeRow.tables = [⟨none, .text "codes"⟩] := rfl
  rw [Statement.renderInto_retriedInsert htables rfl rfl rfl codeRow_insertOnce, hname]
  simp [Session.write, Session.bind, Session.bound, codeRowPieces, h0, h1, h2, h3, h4, h5]

/-- Adding the row binds its three values in the first attempt and again in the second, whose
placeholders are those of the first, three names on. -/
theorem retriedInsert_binds_twice_of_codeRow :
    ∃ (lead : String) (holes : List (Value × String)) (query : RenderedQuery),
      holes.map (·.1) = [.string "x", .string "y", .string "z"] ∧
      codeRow.insertOnce (.bound .mssql) =
        .ok (interleave lead (boundHoles 0 holes), ⟨.mssql, false, boundParams 0 holes⟩) ∧
      codeRow.render = .ok query ∧
      query.sql = Statement.retriedInsertText "\"codes\""
        "insert into \"codes\" (\"code\", \"name\") values ((:a, :b), upper(:c))"
        "insert into \"codes\" (\"code\", \"name\") values ((:d, :e), upper(:f))" ∧
      query.sql = Statement.retriedInsertText "\"codes\"" (interleave lead (boundHoles 0 holes))
        (interleave lead (boundHoles 3 holes)) ∧
      query.params = boundParams 0 holes ++ boundParams 3 holes := by
  have hname : softIdentifier .mssql "codes" = "\"codes\"" := rfl
  obtain ⟨lead, holes, honce, -, -, hown⟩ :=
    Statement.retriedInsert_binds_twice codeRow rfl rfl rfl rfl codeRow_renderInto
  obtain ⟨query, hquery, hsql, hparams, hvalues⟩ := hown rfl
  have hdialect : codeRow.dialect = .mssql := rfl
  have hrender := codeRow.render_eq_map
  rw [hdialect, codeRow_renderInto] at hrender
  change codeRow.render = .ok (Session.finish _ _) at hrender
  obtain rfl := Except.ok.inj (hrender.symm.trans hquery)
  have hlength : holes.length = 3 := by
    have := congrArg List.length hvalues
    simp [Session.finish] at this
    omega
  have hfirst : holes.map (·.1) = [.string "x", .string "y", .string "z"] := by
    have := congrArg (List.take 3) hvalues
    rw [List.take_left' (by simp [hlength])] at this
    exact this.symm
  rw [hname, hlength] at hsql
  rw [hlength] at hparams
  exact ⟨lead, holes, _, hfirst, honce [], hrender, rfl, hsql, hparams⟩

end ScopeQuery
