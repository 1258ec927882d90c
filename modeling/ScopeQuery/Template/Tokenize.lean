import ScopeQuery.Template.Lexeme

/-!
# Tokenizing templates

The segments of a template: neighbouring texts become one, and the tags without
a name are numbered from zero over all three kinds of brackets together.
-/

namespace ScopeQuery.Template

/-- The segments of lexemes, given the position of the next unnamed tag. -/
def segments (next : Nat) : List Lexeme → List Segment
  | [] => []
  | .text text :: rest =>
    match segments next rest with
    | .text following :: tail => .text (String.ofList text ++ following) :: tail
    | tail => .text (String.ofList text) :: tail
  | .tag style name :: rest =>
    if name.isEmpty then .tag (.position next) style :: segments (next + 1) rest
    else .tag (.name (String.ofList name)) style :: segments next rest

/-- The segments of a template. -/
def tokenize (template : String) : List Segment := segments 0 (lexemes template.toList)

/-- The segments of a template are those of its characters, which spares decoding its bytes. -/
theorem tokenize_ofList (text : List Char) :
    tokenize (String.ofList text) = segments 0 (lexemes text) := by
  rw [tokenize, String.toList_ofList]

/-- An empty template has no segments. -/
theorem tokenize_empty : tokenize "" = [] := by
  rw [tokenize, String.toList_empty, lexemes, segments]

end ScopeQuery.Template
