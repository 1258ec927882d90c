import ScopeQuery.Sql.Syntax

/-!
# Subjects

What a condition is about: a path or an expression. A path names a field of the
entity it is read against, or leads over relationships to another entity's
field; its hops are separated by slashes.
-/

namespace ScopeQuery

/-- What a condition is about. -/
inductive Subject where
  /-- A field, perhaps of an entity some hops away. -/
  | path (path : String)
  /-- An expression of the statement. -/
  | expression (e : Expression)

/-- The character between the hops of a path. -/
def hopSeparator : Char := '/'

/-- The last segment of a path that counts related rows. -/
def countSegment : String := "#"

/-- A text before and after the first occurrence of a character. -/
def splitFirst? (separator : Char) : List Char → Option (List Char × List Char)
  | [] => none
  | c :: rest =>
    if c = separator then some ([], rest)
    else
      match splitFirst? separator rest with
      | some (before, after) => some (c :: before, after)
      | none => none

/-- The first hop of a path and the path after it. -/
def splitHop? (path : String) : Option (String × String) :=
  match splitFirst? hopSeparator path.toList with
  | some (hop, rest) => some (String.ofList hop, String.ofList rest)
  | none => none

/-- Whether a path leads over a relationship. -/
def hasHop (path : String) : Bool := path.toList.contains hopSeparator

namespace Subject

/-- The path of a subject that is one. -/
def path? : Subject → Option String
  | .path text => some text
  | .expression _ => none

/-- The first hop of a subject's path and the path after it. -/
def splitHop? (subject : Subject) : Option (String × String) :=
  match subject.path? with
  | some text => ScopeQuery.splitHop? text
  | none => none

/-- The subject as error messages show it. -/
def describe : Subject → String
  | .path text => text
  | .expression e => e.template.getD "<expression>"

end Subject

/-- The text after the first separator is shorter than the whole. -/
theorem splitFirst?_length {separator : Char} {text before after : List Char}
    (h : splitFirst? separator text = some (before, after)) : after.length < text.length := by
  induction text generalizing before with
  | nil => simp [splitFirst?] at h
  | cons c rest ih => grind [splitFirst?]

/-- The path after the first hop is shorter than the whole. -/
theorem splitHop?_length {path hop rest : String} (h : splitHop? path = some (hop, rest)) :
    rest.toList.length < path.toList.length := by
  unfold splitHop? at h
  split at h
  · rename_i hsplit
    have := splitFirst?_length hsplit
    obtain ⟨-, rfl⟩ : _ ∧ String.ofList _ = rest := by simpa using h
    simpa using this
  · simp at h

end ScopeQuery
