/-!
# Quoted texts

A quoted text stands between two quote characters, and a quote character inside
it is written twice. Identifiers and string literals are both written this way;
they differ in the quote character only.
-/

namespace ScopeQuery.Text

/-- Every occurrence of the quote character written twice. -/
def doubled (quote : Char) : List Char → List Char
  | [] => []
  | c :: rest => if c = quote then quote :: quote :: doubled quote rest else c :: doubled quote rest

/-- A text between two quote characters, with the inner ones doubled. -/
def quoted (quote : Char) (text : String) : String :=
  String.ofList (quote :: doubled quote text.toList ++ [quote])

end ScopeQuery.Text
