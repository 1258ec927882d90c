import ScopeQuery.Sql.Syntax

/-!
# SQL functions

Functions whose spelling depends on the dialect.
-/

namespace ScopeQuery

/-- The concatenation of texts. -/
def concatenation (dialect : Dialect) (parts : List Argument) : Expression :=
  let tags := parts.map fun _ => "[]"
  let template := match dialect with
    | .mysql => "concat(" ++ Text.joined ", " tags ++ ")"
    | .mssql => Text.joined " + " tags
    | _ => Text.joined " || " tags
  { template := some template, operands := parts, wrapped := true }

/-- The template of a concatenation over the rows of a group. -/
def groupConcatTemplate : Dialect → String
  | .mysql => "group_concat(\x7b\x7bfield\x7d\x7d separator [delimiter])"
  | .sqlite => "group_concat(\x7b\x7bfield\x7d\x7d, [delimiter])"
  | .oracle =>
    "listagg(\x7b\x7bfield\x7d\x7d, [delimiter]) within group (order by \x7b\x7bfield\x7d\x7d)"
  | _ => "string_agg(\x7b\x7bfield\x7d\x7d, [delimiter])"

/-- The values of a field over the rows of a group, with a delimiter between
them. -/
def groupConcatenation (dialect : Dialect) (field : Argument) (delimiter : String) :
    Expression :=
  { template := some (groupConcatTemplate dialect)
    named := [⟨"field", field⟩, ⟨"delimiter", .text delimiter⟩] }

end ScopeQuery
