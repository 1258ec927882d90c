import ScopeQuery.Regex.Basic
import ScopeQuery.Text.Blank

/-!
# Flags of a pattern

The flags that change how a pattern is read, and their notation after `(?`: letters
switch a flag on, those after a hyphen switch it off, and none may occur twice.
-/

namespace ScopeQuery.Regex

/-- How a pattern is read. -/
structure Flags where
  /-- Letters stand for both cases. -/
  anyCase : Bool := false
  /-- The two anchors stand for the ends of lines. -/
  lines : Bool := false
  /-- The dot stands for line feeds too. -/
  dotAll : Bool := false
  /-- A carriage return ends lines as well. -/
  returns : Bool := false
  /-- Classes hold characters of all scripts. -/
  unicode : Bool := true
  /-- Blanks and comments in the pattern are passed over. -/
  spaced : Bool := false
deriving DecidableEq

/-- A flag letter that has been read; the one that swaps greedy and lazy repetition
has no bearing on whether a match exists. -/
inductive Flag where
  | anyCase
  | lines
  | dotAll
  | returns
  | unicode
  | spaced
  | swapGreed
deriving DecidableEq

namespace Flag

/-- The flag of a letter. -/
def ofLetter? : Char → Option Flag
  | 'i' => some .anyCase
  | 'm' => some .lines
  | 's' => some .dotAll
  | 'R' => some .returns
  | 'u' => some .unicode
  | 'x' => some .spaced
  | 'U' => some .swapGreed
  | _ => none

end Flag

namespace Flags

/-- The flags with one of them set. -/
def put (flags : Flags) (value : Bool) : Flag → Flags
  | .anyCase => { flags with anyCase := value }
  | .lines => { flags with lines := value }
  | .dotAll => { flags with dotAll := value }
  | .returns => { flags with returns := value }
  | .unicode => { flags with unicode := value }
  | .spaced => { flags with spaced := value }
  | .swapGreed => flags

/-- Drops blanks and comments; a comment runs from a number sign to the end of
its line. -/
def pastBlanks : Bool → List Char → List Char
  | _, [] => []
  | true, c :: rest => pastBlanks (c != '\n') rest
  | false, c :: rest =>
    if Text.isBlank c then pastBlanks false rest
    else if c == '#' then pastBlanks true rest
    else c :: rest

/-- The text at the next character that counts. -/
def skip (flags : Flags) (text : List Char) : List Char :=
  if flags.spaced then pastBlanks false text else text

end Flags

/-- How a group of flags ends. -/
inductive FlagsEnd where
  /-- A closing parenthesis: the flags hold for the rest of the group around. -/
  | standing
  /-- A colon: the flags hold inside the group that starts here. -/
  | opening
deriving DecidableEq

/-- The state in which flag letters are read. -/
structure FlagsDraft where
  /-- The flags as set so far. -/
  flags : Flags
  /-- The letters read so far. -/
  seen : List Flag := []
  /-- Whether a hyphen was read. -/
  negated : Bool := false
  /-- Whether the last character was that hyphen. -/
  dangling : Bool := false

/-- Reads flag letters up to the closing parenthesis or colon. No flags at all
are refused before a parenthesis. -/
def readFlags? (draft : FlagsDraft) : List Char → Option (FlagsEnd × Flags × List Char)
  | [] => none
  | ')' :: rest =>
    if draft.dangling || (draft.seen.isEmpty && !draft.negated) then none
    else some (.standing, draft.flags, rest)
  | ':' :: rest => if draft.dangling then none else some (.opening, draft.flags, rest)
  | '-' :: rest =>
    if draft.negated then none
    else readFlags? { draft with negated := true, dangling := true } rest
  | c :: rest =>
    match Flag.ofLetter? c with
    | none => none
    | some flag =>
      if draft.seen.contains flag then none
      else readFlags?
        ⟨draft.flags.put (!draft.negated) flag, flag :: draft.seen, draft.negated, false⟩ rest

end ScopeQuery.Regex
