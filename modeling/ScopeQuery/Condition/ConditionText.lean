import ScopeQuery.Condition.Basic
import ScopeQuery.Condition.ValueText

/-!
# Condition texts

Reading a condition from its text: a field, an operator and a value, or a field
alone. The operator is the first spelling that occurs in the text, the longest
of those that start at the same place; operators that are words need a blank on
both sides. The field and the value are what stands before and after it.
-/

namespace ScopeQuery

/-- The spellings of operators in condition texts, the longest first. -/
def operatorSpellings : List (List Char × Operator) :=
  [(" not regexp ".toList, .notRegexp), (" not like ".toList, .notLike),
    (" not in ".toList, .notIn), (" regexp ".toList, .regexp), (" like ".toList, .like),
    (" in ".toList, .isIn), ("==".toList, .eq), ("!=".toList, .neq), ("<>".toList, .neq),
    (">=".toList, .gte), ("<=".toList, .lte), ("=".toList, .eq), (">".toList, .gt),
    ("<".toList, .lt)]

/-- The text after a spelling at its front, in any letter case. -/
def afterSpelling? : List Char → List Char → Option (List Char)
  | [], text => some text
  | _ :: _, [] => none
  | s :: spelling, c :: text =>
    if c.toLower = s then afterSpelling? spelling text else none

/-- The operator at the front of a text and the text after it. -/
def operatorAt? (text : List Char) : Option (Operator × List Char) :=
  operatorSpellings.findSome? fun (spelling, operator) =>
    (afterSpelling? spelling text).map fun rest => (operator, rest)

/-- The text before the first operator, the operator, and the text after it. -/
def splitOperator? : List Char → Option (List Char × Operator × List Char)
  | [] => none
  | c :: rest =>
    match operatorAt? (c :: rest) with
    | some (operator, after) => some ([], operator, after)
    | none =>
      match splitOperator? rest with
      | some (before, operator, after) => some (c :: before, operator, after)
      | none => none

/-- The condition a trimmed text that is not empty stands for. -/
def parseTrimmed (context : ParseContext) (text : List Char) : Except QueryError Condition :=
  match splitOperator? text with
  | none =>
    if text.any Text.isBlank then .error (.unreadable (String.ofList text) .noOperator)
    else .ok (.bare (.path (String.ofList text)))
  | some (before, operator, after) =>
    let field := Text.trim before
    let value := Text.trim after
    if field.isEmpty then .error (.unreadable (String.ofList text) .emptyField)
    else if value.isEmpty then .error (.unreadable (String.ofList text) .missingValue)
    else
      match parseValue context value with
      | .ok value => Condition.compare (.path (String.ofList field)) operator (.ofValue value)
      | .error error => .error error

/-- The condition a text stands for. -/
def parseCondition (context : ParseContext) (text : String) : Except QueryError Condition :=
  let trimmed := Text.trim text.toList
  if trimmed.isEmpty then .error (.unreadable (String.ofList trimmed) .emptyCondition)
  else parseTrimmed context trimmed

/-- The conditions of several texts, in order. -/
def parseConditions (context : ParseContext) : List String → Except QueryError (List Condition)
  | [] => .ok []
  | text :: rest =>
    match parseCondition context text with
    | .error error => .error error
    | .ok condition =>
      match parseConditions context rest with
      | .ok conditions => .ok (condition :: conditions)
      | .error error => .error error

end ScopeQuery
