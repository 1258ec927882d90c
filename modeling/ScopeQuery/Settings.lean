import ScopeQuery.Document.Record
import ScopeQuery.Document.Yaml
import ScopeQuery.Vocabulary.Dialect

/-!
# Settings

How statements are compiled and how patterns are matched, and reading both from
documents. A setting that a document leaves out has its usual value.
-/

namespace ScopeQuery

/-- How scopes are compiled. -/
structure CompileSettings where
  /-- The dialect of compiled statements. -/
  dialect : Dialect := .generic
  /-- Whether compiled statements are logged. -/
  logSql : Bool := false
deriving DecidableEq

/-- The compile settings that the fields of a record stand for. -/
def CompileSettings.ofFields? {β : Type} (choice? : β → Option String) (bool? : β → Option Bool) :
    List (Option β) → Option CompileSettings
  | [dialect, logSql] =>
    let dialect := Document.fieldOr? .generic
      (fun part => (choice? part).bind Dialect.ofDocumentName?) dialect
    match dialect, Document.fieldOr? false bool? logSql with
    | some dialect, some logSql => some ⟨dialect, logSql⟩
    | _, _ => none
  | _ => none

/-- The names of the compile settings. -/
def CompileSettings.names : List String := ["dialect", "log_sql"]

/-- The compile settings a document stands for. -/
def CompileSettings.ofDocument? (document : Document) : Option CompileSettings :=
  (document.record? names).bind (ofFields? Document.choice? Document.bool?)

/-- The compile settings a YAML text stands for. -/
def CompileSettings.ofYaml? (text : String) : Option CompileSettings :=
  match Yaml.Node.ofText? text with
  | none => none
  | some root =>
    let anchors := (root.map Yaml.Anchors.of).getD []
    (Yaml.record? names root).bind (ofFields? (Yaml.choice? anchors) (Yaml.bool? anchors))

/-- How patterns are matched. -/
structure MatchSettings where
  /-- Whether wildcard patterns ignore case. -/
  anyCaseLike : Bool := true
  /-- The most memory a compiled pattern may need, in bytes. -/
  sizeLimit : Nat := 1048576
deriving DecidableEq

/-- The match settings a document stands for. -/
def MatchSettings.ofDocument? (document : Document) : Option MatchSettings :=
  match document.record? ["case_insensitive_like", "regex_size_limit"] with
  | some [anyCaseLike, sizeLimit] =>
    match Document.fieldOr? true Document.bool? anyCaseLike,
      Document.fieldOr? 1048576 Document.natural? sizeLimit with
    | some anyCaseLike, some sizeLimit => some ⟨anyCaseLike, sizeLimit⟩
    | _, _ => none
  | _ => none

end ScopeQuery
