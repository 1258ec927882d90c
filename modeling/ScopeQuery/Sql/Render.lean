import ScopeQuery.Sql.Depth
import ScopeQuery.Sql.ModeTemplate
import ScopeQuery.Sql.Session
import ScopeQuery.Template.Tokenize

/-!
# Rendering

The text of arguments, expressions and statements in a session. A template is
filled from left to right, every tag with the text of its argument, and the first
failing tag fails the whole. Everything that is nested shares the session, so
parameters are numbered over the whole and nested statements are rendered in the
dialect of the outermost node.
-/

namespace ScopeQuery

/-- What rendering in a session gives: a text and the session after it. -/
abbrev Rendering := Except QueryError (String × Session)

/-- The text of a template's segments, given how each tag is rendered. -/
def fill (renderTag : TagTarget → TagStyle → Session → Rendering) :
    List Segment → Session → Rendering
  | [], session => .ok ("", session)
  | .text text :: rest, session =>
    match fill renderTag rest session with
    | .ok (tail, session) => .ok (text ++ tail, session)
    | .error error => .error error
  | .tag target style :: rest, session =>
    match renderTag target style session with
    | .error error => .error error
    | .ok (text, session) =>
      match fill renderTag rest session with
      | .ok (tail, session) => .ok (text ++ tail, session)
      | .error error => .error error

mutual

/-- The text of an argument in a style. -/
def Argument.renderInto (argument : Argument) (style : TagStyle) (session : Session) :
    Rendering :=
  match argument with
  | .literal value => .ok (session.writeValue style value)
  | .expression e =>
    match e.renderInto session with
    | .ok (text, session) => .ok (if e.wrapped then "(" ++ text ++ ")" else text, session)
    | .error error => .error error
  | .statement s =>
    match s.renderInto session with
    | .ok (text, session) => .ok ("(" ++ text ++ ")", session)
    | .error error => .error error
  | .list items =>
    match renderItems items style session with
    | .ok (texts, session) => .ok ("(" ++ Text.joined ", " texts ++ ")", session)
    | .error error => .error error
termination_by (argument.depth, 0, 0)
decreasing_by
  all_goals
    simp only [Argument.depth, Prod.lex_def]
    omega

/-- The texts of several arguments. -/
def renderItems (items : List Argument) (style : TagStyle) (session : Session) :
    Except QueryError (List String × Session) :=
  match items with
  | [] => .ok ([], session)
  | argument :: rest =>
    match argument.renderInto style session with
    | .error error => .error error
    | .ok (text, session) =>
      match renderItems rest style session with
      | .ok (texts, session) => .ok (text :: texts, session)
      | .error error => .error error
termination_by (argumentsDepth items, 1, items.length)
decreasing_by
  all_goals
    simp only [argumentsDepth, Prod.lex_def, List.length_cons, true_and]
    omega

/-- The text of an expression: its template with the tags filled in. -/
def Expression.renderInto (e : Expression) (session : Session) : Rendering :=
  match e.template with
  | none => .error .noTemplate
  | some template =>
    fill (fun target style session =>
      match _found : e.argument? target with
      | some argument => argument.renderInto style session
      | none => .error (.unknownTag target.label template)) (Template.tokenize template) session
termination_by (e.depth, 1, 0)
decreasing_by
  have := Expression.argument?_depth _found
  simp only [Prod.lex_def]
  omega

/-- The text of a statement: the template of its mode with the clauses filled
in. -/
def Statement.renderInto (s : Statement) (session : Session) : Rendering :=
  let template := modeTemplate s.mode session.dialect
  fill (fun target _ session =>
    match (match target with
      | .position _ => none
      | .name tag => Clause.ofTag? tag) with
    | none => .error (.unknownTag target.label template)
    | some clause =>
      match _built : s.clause session.dialect clause with
      | .ok e => e.renderInto session
      | .error error => .error error) (Template.tokenize template) session
termination_by (s.depth, 2, 0)
decreasing_by
  have := Statement.clause_depth_le _built
  simp only [Prod.lex_def]
  omega

end

namespace Expression

/-- The expression as a query in a dialect. -/
def render (e : Expression) (dialect : Dialect) : Except QueryError RenderedQuery :=
  match e.renderInto (.bound dialect) with
  | .ok (sql, session) => .ok (session.finish sql)
  | .error error => .error error

/-- The expression in a dialect with its values in place, for reading only. -/
def inspect (e : Expression) (dialect : Dialect) : Except QueryError String :=
  match e.renderInto (.inspecting dialect) with
  | .ok (sql, _) => .ok sql
  | .error error => .error error

end Expression

namespace Statement

/-- The statement as a query in its own dialect. -/
def render (s : Statement) : Except QueryError RenderedQuery :=
  match s.renderInto (.bound s.dialect) with
  | .ok (sql, session) => .ok (session.finish sql)
  | .error error => .error error

/-- The statement with its values in place, for reading only. -/
def inspect (s : Statement) : Except QueryError String :=
  match s.renderInto (.inspecting s.dialect) with
  | .ok (sql, _) => .ok sql
  | .error error => .error error

/-- The argument a tag of the statement's template stands for, if it is the tag
of a clause. -/
def tagArgument? (s : Statement) (tag : String) (dialect : Dialect) :
    Except QueryError (Option Argument) :=
  match Clause.ofTag? tag with
  | none => .ok none
  | some clause => (s.clause dialect clause).map fun e => some (.expression e)

end Statement

end ScopeQuery
