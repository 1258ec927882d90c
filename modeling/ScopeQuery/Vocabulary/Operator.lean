import ScopeQuery.Text.Blank

/-!
# Condition operators

The twelve operators in six pairs of opposites, the spellings they are read
from and the one spelling each is written in.
-/

namespace ScopeQuery

/-- How a condition relates a field to its value. -/
inductive Operator where
  /-- Equal, or a member of a list. -/
  | eq
  /-- Not equal, or not a member of a list. -/
  | neq
  /-- Greater. -/
  | gt
  /-- Greater or equal. -/
  | gte
  /-- Less. -/
  | lt
  /-- Less or equal. -/
  | lte
  /-- Matches a wildcard pattern. -/
  | like
  /-- Does not match a wildcard pattern. -/
  | notLike
  /-- A member of a list. -/
  | isIn
  /-- Not a member of a list. -/
  | notIn
  /-- Contains a match of a regular expression. -/
  | regexp
  /-- Contains no match of a regular expression. -/
  | notRegexp
deriving DecidableEq

namespace Operator

/-- Every operator, each followed or preceded by its opposite's pair. -/
def all : List Operator :=
  [.eq, .neq, .gt, .gte, .lt, .lte, .like, .notLike, .isIn, .notIn, .regexp, .notRegexp]

/-- The opposite operator. -/
def negate : Operator → Operator
  | .eq => .neq
  | .neq => .eq
  | .gt => .lte
  | .lte => .gt
  | .gte => .lt
  | .lt => .gte
  | .like => .notLike
  | .notLike => .like
  | .isIn => .notIn
  | .notIn => .isIn
  | .regexp => .notRegexp
  | .notRegexp => .regexp

/-- The spelling in SQL and in messages. -/
def sql : Operator → String
  | .eq => "="
  | .neq => "!="
  | .gt => ">"
  | .gte => ">="
  | .lt => "<"
  | .lte => "<="
  | .like => "like"
  | .notLike => "not like"
  | .isIn => "in"
  | .notIn => "not in"
  | .regexp => "regexp"
  | .notRegexp => "not regexp"

/-- The name in data documents. -/
def documentName : Operator → String
  | .eq => "eq"
  | .neq => "neq"
  | .gt => "gt"
  | .gte => "gte"
  | .lt => "lt"
  | .lte => "lte"
  | .like => "like"
  | .notLike => "not_like"
  | .isIn => "in"
  | .notIn => "not_in"
  | .regexp => "regexp"
  | .notRegexp => "not_regexp"

/-- The operator whose document name this is. -/
def ofDocumentName? (name : String) : Option Operator :=
  all.find? fun op => op.documentName == name

/-- Whether the value may be a list. -/
def acceptsList : Operator → Bool
  | .eq | .neq | .isIn | .notIn => true
  | _ => false

/-- Whether the operator is the negated one of its pair. -/
def isNegative : Operator → Bool
  | .neq | .notLike | .notIn | .notRegexp => true
  | _ => false

/-- Whether the operator compares by order. -/
def isOrdering : Operator → Bool
  | .gt | .gte | .lt | .lte => true
  | _ => false

/-- The operator a normalised spelling stands for. -/
def ofSpelling? (spelling : String) : Option Operator :=
  match spelling with
  | "=" | "==" => some .eq
  | "!=" | "<>" => some .neq
  | ">" => some .gt
  | ">=" => some .gte
  | "<" => some .lt
  | "<=" => some .lte
  | "like" => some .like
  | "not like" => some .notLike
  | "in" => some .isIn
  | "not in" => some .notIn
  | "regexp" => some .regexp
  | "not regexp" => some .notRegexp
  | _ => none

/-- The operator a text stands for, in any letter case and with any blanks
around and between its words. -/
def ofText? (text : String) : Option Operator :=
  ofSpelling? (Text.joined " " ((Text.words text.toList).map fun word =>
    String.ofList (Text.lower word)))

end Operator

end ScopeQuery
