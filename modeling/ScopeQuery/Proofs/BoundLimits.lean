import ScopeQuery.Proofs.AlikeRendering
import ScopeQuery.Proofs.PlaceholderNames
import ScopeQuery.Proofs.ReadingStatements
import ScopeQuery.Proofs.RoundedIntegers

/-!
# Bound row limits

The limit of a reading statement is its last clause, and it binds two parameters, the number of
rows and the number of skipped rows, in the order in which the dialect names them. Both are bound
as binary64 numbers, so a number of 64 bits is kept as the nearest one with 53 significant bits.
-/

namespace ScopeQuery

/-! ### The limit clause -/

namespace Dialect

/-- The place of the number of rows in the row limit of the dialect. -/
def countPlace (dialect : Dialect) : Nat := if dialect.skipsFirst then 1 else 0

/-- The place of the number of skipped rows in the row limit of the dialect. -/
def skipPlace (dialect : Dialect) : Nat := if dialect.skipsFirst then 0 else 1

/-- The row limit of the dialect, with the texts that stand for the number of rows and for that of
skipped rows. -/
def limitText (dialect : Dialect) (count skip : String) : String :=
  match dialect with
  | .mysql => " limit " ++ skip ++ ", " ++ count
  | .mssql | .oracle => " offset " ++ skip ++ " rows fetch next " ++ count ++ " rows only"
  | _ => " limit " ++ count ++ " offset " ++ skip

end Dialect

/-- The row limit of a dialect as pieces. -/
def RowLimit.pieces (dialect : Dialect) (limit : RowLimit) : List Piece :=
  match dialect with
  | .mysql => [.text " limit ", .value limit.skipValue, .text ", ", .value limit.countValue]
  | .mssql | .oracle =>
    [.text " offset ", .value limit.skipValue, .text " rows fetch next ", .value limit.countValue,
      .text " rows only"]
  | _ => [.text " limit ", .value limit.countValue, .text " offset ", .value limit.skipValue]

/-- A row limit comes to its pieces. -/
theorem limitClause_written (dialect : Dialect) (limit : RowLimit) :
    (limitClause dialect limit).written dialect = .ok (limit.pieces dialect) := by
  have hcount (template : String) :
      (limitClause dialect limit).tagWritten template dialect (.name "count") .param =
        .ok [.value limit.countValue] := by
    rw [Expression.tagWritten, limitClause_argument?, if_pos rfl]
    exact Argument.written.eq_1 _ _ _
  have hskip (template : String) :
      (limitClause dialect limit).tagWritten template dialect (.name "skip") .param =
        .ok [.value limit.skipValue] := by
    rw [Expression.tagWritten, limitClause_argument?, if_neg (by simp), if_pos rfl]
    exact Argument.written.eq_1 _ _ _
  rw [Expression.written_of_template rfl]
  cases dialect with
  | mysql =>
    have htokens : Template.tokenize (limitTemplate .mysql) =
        [.text " limit ", .tag (.name "skip") .param, .text ", ", .tag (.name "count") .param] := by
      decide +kernel
    rw [htokens]
    simp only [filled, hcount, hskip]
    rfl
  | mssql | oracle =>
    have htokens : Template.tokenize " offset [skip] rows fetch next [count] rows only" =
        [.text " offset ", .tag (.name "skip") .param, .text " rows fetch next ",
          .tag (.name "count") .param, .text " rows only"] := by
      decide +kernel
    rw [limitTemplate, htokens]
    simp only [filled, hcount, hskip]
    rfl
  | _ =>
    have htokens : Template.tokenize " limit [count] offset [skip]" =
        [.text " limit ", .tag (.name "count") .param, .text " offset ",
          .tag (.name "skip") .param] := by
      decide +kernel
    change filled _ (Template.tokenize " limit [count] offset [skip]") = _
    rw [htokens]
    simp only [filled, hcount, hskip]
    rfl

/-- A row limit is written by its pieces. -/
theorem limitClause_renderInto (dialect : Dialect) (limit : RowLimit) (session : Session)
    (hsession : session.dialect = dialect) :
    (limitClause dialect limit).renderInto session =
      .ok (session.write (limit.pieces dialect)) := by
  rw [(limitClause dialect limit).renderInto_settles dialect session hsession,
    limitClause_written]
  rfl

/-- The query that goes on with a row limit: its text with the next two names, and the parameters
of these names. -/
def Dialect.limited (dialect : Dialect) (front : RenderedQuery) (count skip : Value) :
    RenderedQuery :=
  let countName := placeholderName (front.params.length + dialect.countPlace)
  let skipName := placeholderName (front.params.length + dialect.skipPlace)
  ⟨front.sql ++ dialect.limitText (":" ++ countName) (":" ++ skipName),
    front.params ++ dialect.inPlaces (countName, count) (skipName, skip)⟩

/-- Limited queries have the same text, whatever the numbers of the limits are bound as. -/
theorem Dialect.limited_sql (dialect : Dialect) (front : RenderedQuery)
    (count skip otherCount otherSkip : Value) :
    (dialect.limited front count skip).sql = (dialect.limited front otherCount otherSkip).sql :=
  rfl

/-- Limited queries have the same parameters exactly when the numbers of the limits are bound
alike. -/
theorem Dialect.limited_params_inj (dialect : Dialect) (front : RenderedQuery)
    (count skip otherCount otherSkip : Value) :
    (dialect.limited front count skip).params =
        (dialect.limited front otherCount otherSkip).params ↔
      count = otherCount ∧ skip = otherSkip := by
  unfold limited inPlaces
  cases dialect.skipsFirst with
  | true => simp [and_comm]
  | false => simp

/-- Writing keeps whether values are bound. -/
theorem Session.write_inline (session : Session) (pieces : List Piece) :
    (session.write pieces).2.inline = session.inline := by
  have hbind (session : Session) (value : Value) :
      (session.bind value).2.inline = session.inline := by
    unfold bind
    split <;> rfl
  induction pieces generalizing session with
  | nil => rfl
  | cons piece rest ih =>
    cases piece with
    | text text => exact ih session
    | value value => exact (ih _).trans (hbind session value)

/-- Behind other parameters, a row limit is written as the query that goes on with it. -/
theorem write_pieces (dialect : Dialect) (limit : RowLimit) {after : Session}
    (hbound : after.inline = false) (sql : String) :
    (after.write (limit.pieces dialect)).2.finish
        (sql ++ (after.write (limit.pieces dialect)).1) =
      dialect.limited (after.finish sql) limit.countValue limit.skipValue := by
  cases dialect <;>
    simp [RowLimit.pieces, Session.write, Session.bind, hbound, Session.finish, Dialect.limited,
      Dialect.limitText, Dialect.inPlaces, Dialect.countPlace, Dialect.skipPlace,
      Dialect.skipsFirst, String.append_assoc]

/-! ### The statement around it -/

/-- A template is filled up to some segment, and then behind it. -/
theorem fill_append (renderTag : TagTarget → TagStyle → Session → Rendering)
    (parts rest : List Segment) (session : Session) :
    fill renderTag (parts ++ rest) session =
      match fill renderTag parts session with
      | .error error => .error error
      | .ok (text, after) =>
        (fill renderTag rest after).map fun (tail, last) => (text ++ tail, last) := by
  induction parts generalizing session with
  | nil =>
    change fill renderTag rest session = (fill renderTag rest session).map _
    cases fill renderTag rest session <;> simp [Except.map]
  | cons part parts ih =>
    cases part with
    | text text =>
      rw [List.cons_append, fill, fill, ih]
      cases fill renderTag parts session with
      | error error => rfl
      | ok result =>
        obtain ⟨front, after⟩ := result
        dsimp only
        cases fill renderTag rest after <;> simp [Except.map, String.append_assoc]
    | tag target style =>
      rw [List.cons_append, fill, fill]
      cases renderTag target style session with
      | error error => rfl
      | ok result =>
        obtain ⟨text, next⟩ := result
        dsimp only
        rw [ih]
        cases fill renderTag parts next with
        | error error => rfl
        | ok result =>
          obtain ⟨front, after⟩ := result
          dsimp only
          cases fill renderTag rest after <;> simp [Except.map, String.append_assoc]

/-- Filling a template depends on its own tags only. -/
theorem fill_congr {renderTag other : TagTarget → TagStyle → Session → Rendering}
    {parts : List Segment}
    (h : ∀ target style, .tag target style ∈ parts → renderTag target style = other target style) :
    fill renderTag parts = fill other parts := by
  induction parts with
  | nil => rfl
  | cons part parts ih =>
    have hrest := ih fun target style hmem => h target style (List.mem_cons_of_mem _ hmem)
    funext session
    cases part with
    | text text => rw [fill, fill, hrest]
    | tag target style => rw [fill, fill, hrest, h target style List.mem_cons_self]

namespace Statement

/-- The limit clause comes to the pieces of the limit. -/
theorem clauseWritten_limit {s : Statement} {limit : RowLimit} (h : s.limit = some limit)
    (dialect : Dialect) : s.clauseWritten dialect .limit = .ok (limit.pieces dialect) := by
  rw [clauseWritten, clause, h]
  exact limitClause_written dialect limit

/-- The template of reading without its last tag, the limit. -/
def unlimitedParts : List Segment :=
  (Template.tokenize (modeTemplate .select .generic)).dropLast

/-- The limit is the last clause of reading. -/
theorem tokenize_selectTemplate (dialect : Dialect) :
    Template.tokenize (modeTemplate .select dialect) =
      unlimitedParts ++ [.tag (.name "limit") .param] := by
  have hsame : modeTemplate .select dialect = modeTemplate .select .generic := rfl
  rw [hsame]
  decide +kernel

/-- What stands in front of the limit names other clauses. -/
theorem clause_of_mem_unlimitedParts {target : TagTarget} {style : TagStyle}
    (hmem : .tag target style ∈ unlimitedParts) :
    ∃ part, part ≠ .limit ∧ target.clause? = some part := by
  have hclauses : (Template.tags unlimitedParts).map (·.1.clause?) =
      [some .options, some .fields, some .tables, some .joins, some .wheres, some .groups,
        some .havings, some .order] := by decide +kernel
  have hclause := List.mem_map_of_mem (f := (·.1.clause?)) (Template.mem_tags.2 hmem)
  rw [hclauses] at hclause
  simp only [List.mem_cons, List.not_mem_nil, or_false] at hclause
  rcases hclause with h | h | h | h | h | h | h | h <;> exact ⟨_, by decide, h⟩

/-- The clauses in front of the limit do not depend on its numbers. -/
theorem clause_setLimit (s : Statement) (count skip : UInt64) (dialect : Dialect)
    {part : Clause} (h : part ≠ .limit) :
    (s.setLimit count skip).clause dialect part = (s.setLimit 0 0).clause dialect part := by
  cases part with
  | limit => exact absurd rfl h
  | _ => rfl

/-- What stands in front of the limit does not depend on its numbers. -/
theorem fill_unlimitedParts (s : Statement) (count skip : UInt64) (template : String) :
    fill ((s.setLimit count skip).renderTag template) unlimitedParts =
      fill ((s.setLimit 0 0).renderTag template) unlimitedParts := by
  refine fill_congr fun target style hmem => ?_
  obtain ⟨part, hpart, hclause⟩ := clause_of_mem_unlimitedParts hmem
  rw [renderTag_of_clause hclause, renderTag_of_clause hclause]
  funext session
  rw [clauseRendering, clauseRendering, clause_setLimit s count skip session.dialect hpart]

/-- A tag of a statement's template is settled by the dialect. -/
theorem renderTag_settled (s : Statement) (template : String) (dialect : Dialect)
    (target : TagTarget) (style : TagStyle) :
    Settled dialect (s.renderTag template target style) := by
  cases hclause : target.clause? with
  | none =>
    refine (Settled.fail dialect (.unknownTag target.label template)).congr fun session _ => ?_
    rw [renderTag, hclause]
  | some part =>
    rw [renderTag_of_clause hclause]
    exact s.clauseRendering_settled part dialect

/-- A limited statement is what stands in front of the limit, and the limit. -/
theorem renderInto_setLimit (s : Statement) (hmode : s.mode = .select) (limit : RowLimit)
    (session : Session) :
    (s.setLimit limit.count limit.skip).renderInto session =
      match fill ((s.setLimit 0 0).renderTag (modeTemplate .select session.dialect))
        unlimitedParts session with
      | .error error => .error error
      | .ok (text, after) =>
        .ok (text ++ (after.write (limit.pieces after.dialect)).1,
          (after.write (limit.pieces after.dialect)).2) := by
  have hlimited : (s.setLimit limit.count limit.skip).mode = .select := hmode
  have htag (after : Session) :
      (s.setLimit limit.count limit.skip).renderTag (modeTemplate .select session.dialect)
        (.name "limit") .param after = .ok (after.write (limit.pieces after.dialect)) := by
    have hclause : TagTarget.clause? (.name "limit") = some .limit := rfl
    rw [renderTag_of_clause hclause]
    exact limitClause_renderInto after.dialect limit after rfl
  rw [renderInto_eq_fill, hlimited, tokenize_selectTemplate, fill_append, fill_unlimitedParts]
  cases fill ((s.setLimit 0 0).renderTag (modeTemplate .select session.dialect)) unlimitedParts
    session with
  | error error => rfl
  | ok result =>
    obtain ⟨text, after⟩ := result
    dsimp only
    rw [fill, htag]
    simp [fill, Except.map]

/-- A limited statement that is rendered writes the same pieces in front of its limit, whatever
the numbers of the limit are. -/
theorem setLimit_writes (s : Statement) (hmode : s.mode = .select) {count skip : UInt64}
    {session : Session} {result : String × Session}
    (hrender : (s.setLimit count skip).renderInto session = .ok result) :
    ∃ front : List Piece, ∀ limit : RowLimit,
      (s.setLimit limit.count limit.skip).renderInto session =
        .ok (session.write (front ++ limit.pieces session.dialect)) := by
  have hsplit := s.renderInto_setLimit hmode
  have hsettled := fill_settled ((s.setLimit 0 0).renderTag_settled
    (modeTemplate .select session.dialect) session.dialect) unlimitedParts
  obtain ⟨error, herror⟩ | ⟨front, hfront⟩ := hsettled
  · rw [hsplit ⟨count, skip⟩, herror session rfl] at hrender
    cases hrender
  · refine ⟨front, fun limit => ?_⟩
    rw [hsplit limit, hfront session rfl, Session.write_append]
    dsimp only
    rw [Session.write_dialect]

/-- A query is the text that a session of its own leaves with, and its parameters. -/
theorem render_eq_map (s : Statement) :
    s.render = (s.renderInto (.bound s.dialect)).map fun result => result.2.finish result.1 := by
  rw [render]
  cases s.renderInto (.bound s.dialect) <;> rfl

/-- A limited statement that is rendered is the same query with each limit, up to the values that
are bound for the numbers of rows. -/
theorem render_setLimit (s : Statement) (hmode : s.mode = .select) {count skip : UInt64}
    {query : RenderedQuery} (hquery : (s.setLimit count skip).render = .ok query) :
    ∃ front : RenderedQuery, ∀ limit : RowLimit,
      (s.setLimit limit.count limit.skip).render =
        .ok (s.dialect.limited front limit.countValue limit.skipValue) := by
  have hdialect (count skip : UInt64) : (s.setLimit count skip).dialect = s.dialect := rfl
  obtain ⟨result, hresult⟩ :
      ∃ result, (s.setLimit count skip).renderInto (.bound s.dialect) = .ok result := by
    rw [render_eq_map, hdialect] at hquery
    cases hrendering : (s.setLimit count skip).renderInto (.bound s.dialect) with
    | ok result => exact ⟨result, rfl⟩
    | error error =>
      rw [hrendering] at hquery
      cases hquery
  obtain ⟨front, hfront⟩ := s.setLimit_writes hmode hresult
  let before := (Session.bound s.dialect).write front
  have hbound : before.2.inline = false := Session.write_inline _ front
  refine ⟨before.2.finish before.1, fun limit => ?_⟩
  have hrendered := hfront limit
  rw [Session.write_append] at hrendered
  rw [render_eq_map, hdialect, hrendered]
  exact congrArg Except.ok (write_pieces s.dialect limit hbound before.1)

end Statement

/-! ### What is bound -/

namespace RowLimit

/-- Whether both numbers of a row limit are kept as they are. -/
def Exact (limit : RowLimit) : Prop :=
  Number.grain limit.count.toNat ∣ limit.count.toNat ∧
    Number.grain limit.skip.toNat ∣ limit.skip.toNat

/-- A row limit with numbers up to 2 to the 53 is kept as it is. -/
theorem exact_of_le {limit : RowLimit} (hcount : limit.count.toNat ≤ 2 ^ 53)
    (hskip : limit.skip.toNat ≤ 2 ^ 53) : limit.Exact :=
  ⟨Number.grain_dvd_of_le hcount, Number.grain_dvd_of_le hskip⟩

end RowLimit

/-- The limit of a rendered reading statement binds the numbers nearest to those asked for, each at
its place in the dialect, and those themselves exactly when both are kept. With another limit the
text is the same, and the parameters are exactly when both numbers are rounded alike; two limits
that are kept are never bound alike. -/
theorem Statement.setLimit_binds_nearest (s : Statement) (hmode : s.mode = .select)
    {limit : RowLimit} {query : RenderedQuery}
    (hquery : (s.setLimit limit.count limit.skip).render = .ok query) :
    (∃ (front : RenderedQuery) (count skip : Nat),
      query = s.dialect.limited front (.number (.whole count)) (.number (.whole skip)) ∧
        Number.Keeps limit.count.toNat count ∧ Number.Keeps limit.skip.toNat skip ∧
        (count = limit.count.toNat ∧ skip = limit.skip.toNat ↔ limit.Exact)) ∧
      ∀ other : RowLimit, ∃ otherQuery,
        (s.setLimit other.count other.skip).render = .ok otherQuery ∧
          otherQuery.sql = query.sql ∧
          (otherQuery.params = query.params ↔
            Number.ofNat other.count.toNat = Number.ofNat limit.count.toNat ∧
              Number.ofNat other.skip.toNat = Number.ofNat limit.skip.toNat) ∧
          (limit.Exact → other.Exact → otherQuery.params = query.params → other = limit) := by
  obtain ⟨front, hfront⟩ := s.render_setLimit hmode hquery
  obtain rfl : s.dialect.limited front limit.countValue limit.skipValue = query :=
    Except.ok.inj ((hfront limit).symm.trans hquery)
  constructor
  · refine ⟨front, Number.roundUnits limit.count.toNat 1, Number.roundUnits limit.skip.toNat 1,
      ?_, Number.keeps_roundUnits _, Number.keeps_roundUnits _, ?_⟩
    · rw [RowLimit.countValue, RowLimit.skipValue, Number.ofNat_eq limit.count.toNat_lt,
        Number.ofNat_eq limit.skip.toNat_lt]
    · exact and_congr (Number.keeps_roundUnits _).eq_iff (Number.keeps_roundUnits _).eq_iff
  · intro other
    have hvalue (m n : Nat) : Value.number (Number.ofNat m) = .number (Number.ofNat n) ↔
        Number.ofNat m = Number.ofNat n := by
      rw [Value.number.injEq]
    have hparams := (s.dialect.limited_params_inj front other.countValue other.skipValue
      limit.countValue limit.skipValue).trans (and_congr (hvalue _ _) (hvalue _ _))
    refine ⟨_, hfront other, s.dialect.limited_sql front _ _ _ _, hparams,
      fun hlimit hother h => ?_⟩
    obtain ⟨hcount, hskip⟩ := hparams.1 h
    rw [Number.ofNat_of_dvd other.count.toNat_lt hother.1,
      Number.ofNat_of_dvd limit.count.toNat_lt hlimit.1] at hcount
    rw [Number.ofNat_of_dvd other.skip.toNat_lt hother.2,
      Number.ofNat_of_dvd limit.skip.toNat_lt hlimit.2] at hskip
    have hsame : other.count = limit.count ∧ other.skip = limit.skip :=
      ⟨UInt64.toNat_inj.1 (Number.whole_inj.1 hcount),
        UInt64.toNat_inj.1 (Number.whole_inj.1 hskip)⟩
    cases other
    cases limit
    obtain ⟨rfl, rfl⟩ := hsame
    rfl

/-! ### Pages of a table -/

/-- The statement that reads all of one table. -/
def wholeTable : Statement := { dialect := .generic, tables := [⟨none, .text "t"⟩] }

/-- An empty clause is written as nothing. -/
theorem emptyClause_renderInto (session : Session) :
    emptyClause.renderInto session = .ok ("", session) := by
  rw [emptyClause, Expression.renderInto_of_template rfl, Template.tokenize_empty]
  rfl

/-- The table that is read is written quoted. -/
theorem fromTable_renderInto :
    (Expression.ofTemplate " from \x7b\x7b\x7d\x7d" [.text "t"]).renderInto (.bound .generic) =
      .ok (" from \"t\"", .bound .generic) := by
  have htokens : Template.tokenize " from \x7b\x7b\x7d\x7d" =
      [.text " from ", .tag (.position 0) .soft] := by decide +kernel
  have hquoted : softIdentifier .generic "t" = "\"t\"" := by decide +kernel
  have hname (template : String) :
      (Expression.ofTemplate " from \x7b\x7b\x7d\x7d" [.text "t"]).renderTag template
        (.position 0) .soft (.bound .generic) = .ok ("\"t\"", .bound .generic) := by
    have hwritten : (Argument.text "t").renderInto .soft (.bound .generic) =
        .ok (softIdentifier .generic "t", .bound .generic) := by
      rw [Argument.text, Argument.renderInto]
      rfl
    exact hwritten.trans (by rw [hquoted])
  rw [Expression.renderInto_of_template rfl, htokens]
  simp only [fill, hname]
  rfl

/-- What stands in front of the limit reads the table. -/
theorem wholeTable_front :
    fill ((wholeTable.setLimit 0 0).renderTag (modeTemplate .select .generic))
        Statement.unlimitedParts (.bound .generic) =
      .ok ("select * from \"t\"", .bound .generic) := by
  have hparts : Statement.unlimitedParts =
      [.text "select", .tag (.name "option") .param, .text " ", .tag (.name "field") .param,
        .tag (.name "from") .param, .tag (.name "join") .param, .tag (.name "where") .param,
        .tag (.name "group") .param, .tag (.name "having") .param,
        .tag (.name "order") .param] := by
    decide +kernel
  have hstar : (Expression.ofTemplate "*").renderInto (.bound .generic) =
      .ok ("*", .bound .generic) := by
    have htokens : Template.tokenize "*" = [.text "*"] := by decide +kernel
    rw [Expression.renderInto_of_template rfl, htokens]
    rfl
  have htag (tag : String) (part : Clause) (e : Expression) (text : String)
      (hpart : TagTarget.clause? (.name tag) = some part)
      (hclause : (wholeTable.setLimit 0 0).clause (Session.bound .generic).dialect part = .ok e)
      (hrendering : e.renderInto (.bound .generic) = .ok (text, .bound .generic)) :
      (wholeTable.setLimit 0 0).renderTag (modeTemplate .select .generic) (.name tag) .param
        (.bound .generic) = .ok (text, .bound .generic) := by
    rw [Statement.renderTag_of_clause hpart, Statement.clauseRendering, hclause]
    exact hrendering
  have hempty := emptyClause_renderInto (.bound .generic)
  rw [hparts]
  simp only [fill, htag "option" .options emptyClause "" rfl rfl hempty,
    htag "field" .fields _ "*" rfl rfl hstar,
    htag "from" .tables _ " from \"t\"" rfl rfl fromTable_renderInto,
    htag "join" .joins emptyClause "" rfl rfl hempty,
    htag "where" .wheres emptyClause "" rfl rfl hempty,
    htag "group" .groups emptyClause "" rfl rfl hempty,
    htag "having" .havings emptyClause "" rfl rfl hempty,
    htag "order" .order emptyClause "" rfl rfl hempty]
  rfl

/-- A page of the table is read with its two numbers bound. -/
theorem wholeTable_render_setLimit (limit : RowLimit) :
    (wholeTable.setLimit limit.count limit.skip).render =
      .ok (Dialect.generic.limited ⟨"select * from \"t\"", []⟩ limit.countValue
        limit.skipValue) := by
  have hrendered := wholeTable.renderInto_setLimit rfl limit (.bound .generic)
  have hfront : fill ((wholeTable.setLimit 0 0).renderTag
      (modeTemplate .select (Session.bound .generic).dialect)) Statement.unlimitedParts
      (.bound .generic) = .ok ("select * from \"t\"", .bound .generic) := wholeTable_front
  have hdialect : (wholeTable.setLimit limit.count limit.skip).dialect = .generic := rfl
  rw [hfront] at hrendered
  rw [Statement.render_eq_map, hdialect, hrendered]
  exact congrArg Except.ok (write_pieces .generic limit rfl "select * from \"t\"")

/-- The page of ten rows behind twenty binds these numbers, and no other page that is kept as it
is binds the same. -/
theorem setLimit_binds_nearest_of_page :
    ∃ front query, (wholeTable.setLimit 10 20).render = .ok query ∧
      query = Dialect.generic.limited front (.number (.whole 10)) (.number (.whole 20)) ∧
      ∀ other : RowLimit, other.Exact → ∀ otherQuery,
        (wholeTable.setLimit other.count other.skip).render = .ok otherQuery →
          otherQuery.params = query.params → other = ⟨10, 20⟩ := by
  have hexact : (⟨10, 20⟩ : RowLimit).Exact := RowLimit.exact_of_le (by decide) (by decide)
  have hrendered := wholeTable_render_setLimit ⟨10, 20⟩
  obtain ⟨⟨front, count, skip, hquery, -, -, hkept⟩, hothers⟩ :=
    wholeTable.setLimit_binds_nearest rfl hrendered
  obtain ⟨rfl, rfl⟩ := hkept.2 hexact
  refine ⟨front, _, hrendered, hquery, fun other hother otherQuery hrender hparams => ?_⟩
  obtain ⟨found, hfound, -, -, hdifferent⟩ := hothers other
  obtain rfl : found = otherQuery := Except.ok.inj (hfound.symm.trans hrender)
  exact hdifferent hexact hother hparams

/-- The smallest number of rows that is not kept binds the number before it, and the largest one
binds one that is larger. -/
theorem setLimit_conflates_pages :
    (wholeTable.setLimit 9007199254740993 0).render =
        (wholeTable.setLimit 9007199254740992 0).render ∧
      (wholeTable.setLimit 9007199254740993 0).render =
        .ok ⟨"select * from \"t\" limit :a offset :b",
          [("a", .number (.whole 9007199254740992)), ("b", .number (.whole 0))]⟩ ∧
      (wholeTable.setLimit 18446744073709551615 0).render =
        .ok ⟨"select * from \"t\" limit :a offset :b",
          [("a", .number (.whole 18446744073709551616)), ("b", .number (.whole 0))]⟩ := by
  have hpage (count : UInt64) (kept : Nat) (hkept : Number.roundUnits count.toNat 1 = kept) :
      (wholeTable.setLimit count 0).render =
        .ok ⟨"select * from \"t\" limit :a offset :b",
          [("a", .number (.whole kept)), ("b", .number (.whole 0))]⟩ := by
    have hcount : Number.ofNat count.toNat = .whole kept := by
      rw [Number.ofNat_eq count.toNat_lt, hkept]
    have hskip : Number.ofNat 0 = .whole 0 :=
      Number.ofNat_of_dvd (by decide) (Nat.dvd_zero _)
    have hfirst : placeholderName 0 = "a" := by decide +kernel
    have hsecond : placeholderName 1 = "b" := by decide +kernel
    have hrendered := wholeTable_render_setLimit ⟨count, 0⟩
    rw [RowLimit.countValue, RowLimit.skipValue, hcount] at hrendered
    refine hrendered.trans ?_
    rw [UInt64.toNat_zero, hskip]
    simp only [Dialect.limited, Dialect.limitText, Dialect.inPlaces, Dialect.countPlace,
      Dialect.skipPlace, Dialect.skipsFirst, Bool.false_eq_true, if_false, List.length_nil,
      Nat.zero_add, hfirst, hsecond]
    rfl
  have hsmallest := hpage 9007199254740993 9007199254740992 (by decide +kernel)
  have hbefore := hpage 9007199254740992 9007199254740992 (by decide +kernel)
  have hlargest := hpage 18446744073709551615 18446744073709551616 (by decide +kernel)
  exact ⟨hsmallest.trans hbefore.symm, hsmallest, hlargest⟩

end ScopeQuery
