/-!
# Template segments

A template is plain text with tags in it. The brackets of a tag say how the
argument that stands in its place is written; a tag without a name takes the
next positional argument.
-/

namespace ScopeQuery

/-- How the argument of a tag is written. -/
inductive TagStyle where
  /-- Square brackets: bound as a parameter. -/
  | param
  /-- Single braces: quoted as one identifier. -/
  | identifier
  /-- Double braces: quoted segment by segment unless it looks like an
  expression. -/
  | soft
deriving DecidableEq

/-- Which argument a tag stands for. -/
inductive TagTarget where
  /-- A positional argument, counted from zero. -/
  | position (i : Nat)
  /-- The argument of a name. -/
  | name (text : String)
deriving DecidableEq

/-- The tag as error messages name it. -/
def TagTarget.label : TagTarget → String
  | .position i => toString i
  | .name text => text

/-- One piece of a template. -/
inductive Segment where
  /-- Text that stands for itself. -/
  | text (text : String)
  /-- A tag, to be replaced by its argument. -/
  | tag (target : TagTarget) (style : TagStyle)
deriving DecidableEq

end ScopeQuery
