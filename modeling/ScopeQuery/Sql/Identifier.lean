import ScopeQuery.Vocabulary.Dialect
import ScopeQuery.Text.Blank
import ScopeQuery.Text.Quoted

/-!
# Identifiers

Writing names into a statement. A strict identifier is one quoted name. A soft
identifier is a path of names with points between them, each quoted on its own;
a star stands for itself, and a text that already looks like an expression is
left alone.
-/

namespace ScopeQuery

/-- A name quoted as one identifier. -/
def quoteIdentifier (dialect : Dialect) (name : String) : String :=
  Text.quoted dialect.identifierQuote name

/-- A segment of a path: a star stays, any other name is quoted. -/
def quoteSegment (dialect : Dialect) (segment : String) : String :=
  if segment = "*" then segment else quoteIdentifier dialect segment

/-- Whether a name looks like an expression: a star alone, or a text with an
opening parenthesis or a quote in it. -/
def looksLikeExpression (dialect : Dialect) (name : String) : Bool :=
  name == "*" || name.toList.any fun c => c == '(' || c == dialect.identifierQuote || c == '"'

/-- A name quoted segment by segment, unless it looks like an expression. -/
def softIdentifier (dialect : Dialect) (name : String) : String :=
  if looksLikeExpression dialect name then name
  else Text.joined "." ((name.toList.splitOn '.').map fun segment =>
    quoteSegment dialect (String.ofList segment))

end ScopeQuery
