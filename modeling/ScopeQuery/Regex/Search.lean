import ScopeQuery.Regex.Basic
import ScopeQuery.Unicode.Word

/-!
# Searching a text

An expression is run on all positions of a text at once. Positions are marked by
booleans; from the marks where a match may start, an expression computes the
marks where such matches end. A search marks every position and asks whether
any mark is left.
-/

namespace ScopeQuery

/-- A position of a text, by the characters before and after it where there are
any. -/
structure Spot where
  /-- The character before the position. -/
  before : Option Char
  /-- The character after the position. -/
  after : Option Char
deriving DecidableEq

namespace Spot

/-- The positions of a text whose first one has a given character before it. -/
def listFrom (before : Option Char) : List Char → List Spot
  | [] => [⟨before, none⟩]
  | c :: rest => ⟨before, some c⟩ :: listFrom (some c) rest

/-- The positions of a text, one more than it has characters. -/
def list (text : List Char) : List Spot := listFrom none text

theorem length_listFrom (before : Option Char) (text : List Char) :
    (listFrom before text).length = text.length + 1 := by
  induction text generalizing before with
  | nil => rfl
  | cons c rest ih => simp [listFrom, ih]

theorem length_list (text : List Char) : (list text).length = text.length + 1 :=
  length_listFrom none text

end Spot

/-- Whether a character is a word character, of all scripts or of ASCII only. -/
def isWordChar (unicode : Bool) (c : Char) : Bool :=
  if unicode then Unicode.isWord c else Unicode.isAsciiWord c

/-- Whether word characters before and after a position meet a condition. -/
def WordEdge.holds (before after : Bool) : WordEdge → Bool
  | .boundary => before != after
  | .inside => before == after
  | .start => !before && after
  | .stop => before && !after
  | .startHalf => !before
  | .stopHalf => !after

/-- Whether a position meets a condition. -/
def Look.holds (spot : Spot) : Look → Bool
  | .textStart => spot.before.isNone
  | .textEnd => spot.after.isNone
  | .lineStart => spot.before.isNone || spot.before == some '\n'
  | .lineEnd => spot.after.isNone || spot.after == some '\n'
  | .returnLineStart =>
    spot.before.isNone || spot.before == some '\n' ||
      (spot.before == some '\r' && spot.after != some '\n')
  | .returnLineEnd =>
    spot.after.isNone || spot.after == some '\r' ||
      (spot.after == some '\n' && spot.before != some '\r')
  | .word edge unicode =>
    edge.holds (spot.before.any (isWordChar unicode)) (spot.after.any (isWordChar unicode))

/-- Marks on the positions of a text. -/
abbrev Marks := List Bool

namespace Marks

/-- Marked where either is. -/
def union (left right : Marks) : Marks := left.zipWith (· || ·) right

/-- The marks that stay where the position meets a condition. -/
def filter (holds : Spot → Bool) (spots : List Spot) (marks : Marks) : Marks :=
  spots.zipWith (fun spot mark => mark && holds spot) marks

/-- Moves each mark over the character after it when that belongs to the set;
`carried` is the mark that reaches the first position. -/
def shift (set : CharSet) (carried : Bool) : List Spot → Marks → Marks
  | spot :: spots, mark :: marks =>
    carried :: shift set (mark && spot.after.any set.contains) spots marks
  | _, _ => []

/-- Applies a step a number of times, or until it changes nothing. -/
def iterate (step : Marks → Marks) : Nat → Marks → Marks
  | 0, marks => marks
  | n + 1, marks =>
    let next := step marks
    if next == marks then marks else iterate step n next

/-- Gathers the marks of up to a number of steps, and stops once a step adds
none. -/
def gather (step : Marks → Marks) : Nat → Marks → Marks
  | 0, marks => marks
  | n + 1, marks =>
    let next := union marks (step marks)
    if next == marks then marks else gather step n next

end Marks

namespace Regex

/-- The marks where matches end that start at given marks. -/
def ends (spots : List Spot) : Regex → Marks → Marks
  | .empty, marks => marks
  | .chars set, marks => Marks.shift set false spots marks
  | .look condition, marks => Marks.filter condition.holds spots marks
  | .seq first second, marks => second.ends spots (first.ends spots marks)
  | .alt left right, marks => Marks.union (left.ends spots marks) (right.ends spots marks)
  | .repeated body least most, marks =>
    let started := Marks.iterate (body.ends spots) least marks
    let further := match most with
      | none => spots.length
      | some most => most - least
    Marks.gather (body.ends spots) further started
  | .captured body, marks => body.ends spots marks

/-- Whether some stretch of a text matches. -/
def occursIn (regex : Regex) (text : List Char) : Bool :=
  let spots := Spot.list text
  (regex.ends spots (spots.map fun _ => true)).contains true

end Regex

end ScopeQuery
