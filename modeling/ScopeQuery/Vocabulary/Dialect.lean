import ScopeQuery.Text.Blank

/-!
# Database dialects

The databases a statement can be written for. A dialect chooses templates and
the character that quotes identifiers; a name that is not known stands for the
generic dialect.
-/

namespace ScopeQuery

/-- The database a statement is written for. -/
inductive Dialect where
  /-- The templates that no database overrides. -/
  | generic
  /-- MySQL and its relatives. -/
  | mysql
  /-- PostgreSQL. -/
  | postgres
  /-- SQLite. -/
  | sqlite
  /-- Microsoft SQL Server. -/
  | mssql
  /-- Oracle. -/
  | oracle
deriving DecidableEq

namespace Dialect

/-- Every dialect. -/
def all : List Dialect := [.generic, .mysql, .postgres, .sqlite, .mssql, .oracle]

/-- The name, also in data documents. -/
def name : Dialect → String
  | .generic => "generic"
  | .mysql => "mysql"
  | .postgres => "postgres"
  | .sqlite => "sqlite"
  | .mssql => "mssql"
  | .oracle => "oracle"

/-- The dialect with exactly this name. -/
def ofDocumentName? (name : String) : Option Dialect :=
  all.find? fun dialect => dialect.name == name

/-- The dialect a name or a driver's alias stands for, in any letter case and
with blanks around it. -/
def ofName (name : String) : Dialect :=
  match String.ofList (Text.lower (Text.trim name.toList)) with
  | "mysql" | "mariadb" => .mysql
  | "postgres" | "postgresql" | "pgsql" | "pg" => .postgres
  | "sqlite" | "sqlite3" => .sqlite
  | "mssql" | "sqlsrv" | "sqlserver" => .mssql
  | "oracle" | "oci" => .oracle
  | _ => .generic

/-- The character that quotes identifiers. -/
def identifierQuote : Dialect → Char
  | .mysql => '\x60'
  | _ => '"'

end Dialect

end ScopeQuery
