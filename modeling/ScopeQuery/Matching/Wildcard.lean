import ScopeQuery.Error.Matching
import ScopeQuery.Settings
import ScopeQuery.Regex.Footprint
import ScopeQuery.Regex.Search
import ScopeQuery.Unicode.Fold

/-!
# Wildcard patterns

The patterns of `like`: a percent sign stands for any sequence of characters, an
underscore for one character, and a backslash takes the character after it
literally. A wildcard pattern is matched as the anchored regular expression of its
wildcards, so it covers the whole text.
-/

namespace ScopeQuery

/-- A piece of a wildcard pattern. -/
inductive Wildcard where
  /-- Any sequence of characters. -/
  | anySequence
  /-- Any one character. -/
  | anyOne
  /-- One given character. -/
  | exactly (c : Char)
deriving DecidableEq

namespace Wildcard

/-- The pieces of a pattern. A backslash with nothing after it stands for
nothing. -/
def ofPattern : List Char → List Wildcard
  | [] => []
  | '%' :: rest => .anySequence :: ofPattern rest
  | '_' :: rest => .anyOne :: ofPattern rest
  | ['\\'] => []
  | '\\' :: c :: rest => .exactly c :: ofPattern rest
  | c :: rest => .exactly c :: ofPattern rest

/-- The characters that a given one stands for. -/
def charSet (anyCase : Bool) (c : Char) : CharSet :=
  if anyCase then CharSet.variantsOf c else CharSet.single c

/-- The regular expression of a piece. -/
def regex (anyCase : Bool) : Wildcard → Regex
  | .anySequence => .many (.chars CharSet.full)
  | .anyOne => .chars CharSet.full
  | .exactly c => .chars (charSet anyCase c)

/-- The regular expression of a whole pattern. -/
def wholeRegex (anyCase : Bool) (pieces : List Wildcard) : Regex :=
  .concat (.look .textStart :: pieces.map (regex anyCase) ++ [.look .textEnd])

end Wildcard

/-- Whether a text matches a wildcard pattern. -/
def matchesWildcards (settings : MatchSettings) (text pattern : String) : Except MatchError Bool :=
  let regex := Wildcard.wholeRegex settings.anyCaseLike (Wildcard.ofPattern pattern.toList)
  if regex.footprint ≤ settings.sizeLimit then .ok (regex.occursIn text.toList)
  else .error (.invalidPattern pattern)

end ScopeQuery
