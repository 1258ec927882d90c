import ScopeQuery.Unicode.CharSet

/-!
# Regular expressions

Regular expressions over characters, with conditions on the position between two
characters. Nothing here says which of several matches is preferred, because a
search only asks whether one exists.
-/

namespace ScopeQuery

/-- The conditions that a change between word and other characters can meet. -/
inductive WordEdge where
  /-- A word character on exactly one side. -/
  | boundary
  /-- Word characters on both sides or on neither. -/
  | inside
  /-- A word character after the position and none before it. -/
  | start
  /-- A word character before the position and none after it. -/
  | stop
  /-- No word character before the position. -/
  | startHalf
  /-- No word character after the position. -/
  | stopHalf
deriving DecidableEq

/-- Conditions on a position. -/
inductive Look where
  /-- The text starts here. -/
  | textStart
  /-- The text ends here. -/
  | textEnd
  /-- A line starts here, after a line feed. -/
  | lineStart
  /-- A line ends here, before a line feed. -/
  | lineEnd
  /-- A line starts here, after a line feed, a carriage return or both. -/
  | returnLineStart
  /-- A line ends here, before a line feed, a carriage return or both. -/
  | returnLineEnd
  /-- A condition on word characters, of all scripts or of ASCII only. -/
  | word (edge : WordEdge) (unicode : Bool)
deriving DecidableEq

/-- Regular expressions. -/
inductive Regex where
  /-- The empty text. -/
  | empty
  /-- One character of a set. -/
  | chars (set : CharSet)
  /-- The empty text, at a position that meets a condition. -/
  | look (condition : Look)
  /-- The first expression and then the second. -/
  | seq (first second : Regex)
  /-- Either expression. -/
  | alt (left right : Regex)
  /-- The expression at least `least` times and, with a bound, at most `most` times. -/
  | repeated (body : Regex) (least : Nat) (most : Option Nat)
  /-- A group whose text is captured. -/
  | captured (body : Regex)
deriving DecidableEq

namespace Regex

/-- Expressions one after another. -/
def concat : List Regex → Regex
  | [] => .empty
  | [regex] => regex
  | regex :: next :: rest => .seq regex (concat (next :: rest))

/-- Any of several expressions. -/
def oneOf : List Regex → Regex
  | [] => .chars CharSet.empty
  | [regex] => regex
  | regex :: next :: rest => .alt regex (oneOf (next :: rest))

/-- One given character. -/
def char (c : Char) : Regex := .chars (CharSet.single c)

/-- Any number of times. -/
def many (body : Regex) : Regex := .repeated body 0 none

end Regex

end ScopeQuery
