/-!
# Mirrored evaluations

Two evaluations mirror each other when both fail, perhaps with different errors, or
both answer and the second answer is the first one turned. Opposite operators mirror
each other with negation; two operators given to one codec mirror each other up to
the operator that is stored.
-/

namespace ScopeQuery

/-- Evaluations that fail together, and answer alike but for a turn. -/
inductive Mirrored {ε α : Type} (turn : α → α) : Except ε α → Except ε α → Prop where
  /-- Both fail, perhaps with different errors. -/
  | failed (left right : ε) : Mirrored turn (.error left) (.error right)
  /-- Both answer. -/
  | answered (answer : α) : Mirrored turn (.ok answer) (.ok (turn answer))

namespace Mirrored

variable {ε α : Type} {turn : α → α}

/-- Answers mirror each other when the second is the first one turned. -/
theorem of_eq {left right : α} (h : right = turn left) :
    Mirrored turn (.ok left : Except ε α) (.ok right) := by
  rw [h]
  exact .answered left

/-- To show something of mirrored evaluations, show it of two errors and of two
answers. -/
@[elab_as_elim]
theorem elim {motive : Except ε α → Except ε α → Prop} {left right : Except ε α}
    (h : Mirrored turn left right) (failed : ∀ e e', motive (.error e) (.error e'))
    (answered : ∀ answer, motive (.ok answer) (.ok (turn answer))) : motive left right := by
  cases h with
  | failed left right => exact failed left right
  | answered answer => exact answered answer

/-- Mirrored evaluations fail together. -/
theorem error_iff {left right : Except ε α} (h : Mirrored turn left right) :
    (∃ error, right = .error error) ↔ ∃ error, left = .error error := by
  cases h with
  | failed left right => exact ⟨fun _ => ⟨left, rfl⟩, fun _ => ⟨right, rfl⟩⟩
  | answered answer => simp

/-- The answer that mirrors a known one. -/
theorem answer {left right : Except ε α} (h : Mirrored turn left right) {given : α}
    (hleft : left = .ok given) : right = .ok (turn given) := by
  cases h with
  | failed left right => simp at hleft
  | answered answer => rw [Except.ok.inj hleft]

end Mirrored

end ScopeQuery
