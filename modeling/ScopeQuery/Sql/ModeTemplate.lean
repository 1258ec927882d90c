import ScopeQuery.Vocabulary.Dialect
import ScopeQuery.Vocabulary.Mode

/-!
# Statement templates

The template of every mode, with the dialects that differ. Its tags name the
clauses of the statement.
-/

namespace ScopeQuery

/-- Adding a row. -/
def insertTemplate : String :=
  "insert[option] into [table_noalias] ([set_fields]) values ([set_values])"

/-- Adding a row to a table whose key the server assigns: when that fails
because a key was given, the same row is added with given keys allowed. -/
def retriedInsertTemplate : String :=
  "begin try " ++ insertTemplate ++ "; end try begin catch if ERROR_NUMBER() = 544 begin " ++
    "set IDENTITY_INSERT [table_noalias] on; begin try " ++ insertTemplate ++
    "; set IDENTITY_INSERT [table_noalias] off; end try begin catch " ++
    "set IDENTITY_INSERT [table_noalias] off; throw; end catch end else begin throw; end end catch"

/-- The template of a statement. -/
def modeTemplate : Mode → Dialect → String
  | .select, _ => "select[option] [field][from][join][where][group][having][order][limit]"
  | .insert, .mssql => retriedInsertTemplate
  | .insert, _ => insertTemplate
  | .replace, .sqlite =>
    "insert or replace[option] into [table_noalias] ([set_fields]) values ([set_values])"
  | .replace, _ => "replace[option] into [table_noalias] ([set_fields]) values ([set_values])"
  | .update, _ => "update [table_noalias] set [set][where]"
  | .delete, _ => "delete from [table_noalias][where]"
  | .truncate, .sqlite => "delete from [table_noalias]"
  | .truncate, _ => "truncate table [table_noalias]"

end ScopeQuery
