import ScopeQuery.Value.Text
import ScopeQuery.Sql.Identifier
import ScopeQuery.Sql.Placeholder
import ScopeQuery.Template.Basic

/-!
# Sessions

The state of one rendering. A bound session names the parameters in order and
collects them, a session for reading writes every value in place as a literal.
The dialect is that of the outermost node and stays the same.
-/

namespace ScopeQuery

/-- A finished query: its text and its parameters, by name and in order. -/
structure RenderedQuery where
  /-- The SQL text with a placeholder for each parameter. -/
  sql : String
  /-- The name of each placeholder, without its colon, and its value. -/
  params : List (String × Value)

/-- The state of one rendering. -/
structure Session where
  /-- The dialect every node is rendered in. -/
  dialect : Dialect
  /-- Whether values are written in place instead of bound. -/
  inline : Bool
  /-- The parameters bound so far. -/
  params : List (String × Value)

namespace Session

/-- A session that binds parameters. -/
def bound (dialect : Dialect) : Session := ⟨dialect, false, []⟩

/-- A session that writes values in place, for reading only. -/
def inspecting (dialect : Dialect) : Session := ⟨dialect, true, []⟩

/-- The text that stands for a value, and the session after it. -/
def bind (session : Session) (value : Value) : String × Session :=
  if session.inline then (value.literal, session)
  else
    let name := placeholderName session.params.length
    (":" ++ name, { session with params := session.params ++ [(name, value)] })

/-- The texts that stand for several values, and the session after them. -/
def bindAll (session : Session) : List Value → List String × Session
  | [] => ([], session)
  | value :: rest =>
    let (text, session) := session.bind value
    let (texts, session) := session.bindAll rest
    (text :: texts, session)

/-- The text of a value in the place of a tag, and the session after it. A
parameter that is an array binds its items; an identifier is the text of the
value, quoted. -/
def writeValue (session : Session) (style : TagStyle) (value : Value) : String × Session :=
  match style, value with
  | .param, .array items =>
    let (texts, session) := session.bindAll items
    ("(" ++ Text.joined ", " texts ++ ")", session)
  | .param, value => session.bind value
  | .identifier, value => (quoteIdentifier session.dialect value.text, session)
  | .soft, value => (softIdentifier session.dialect value.text, session)

/-- The finished query of a text that was rendered in the session. -/
def finish (session : Session) (sql : String) : RenderedQuery := ⟨sql, session.params⟩

end Session

end ScopeQuery
