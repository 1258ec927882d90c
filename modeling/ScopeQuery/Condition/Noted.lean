import ScopeQuery.Condition.Subject

/-!
# Noted calls

A computed comparand belongs to the caller, who sees how often it is called and with what.
What is made of conditions is therefore noted down with the calls it took, in their order. A
call is the only way to a computed value, so none is made without being noted.
-/

namespace ScopeQuery

/-- The subject and operator of a condition, which a computed comparand is
computed from. -/
structure ConditionHead where
  /-- What the condition is about, with all its hops. -/
  subject : Option Subject
  /-- The operator. -/
  operator : Option Operator

/-- What is made, or the error, and the calls of computed comparands it took. -/
structure Noted (ε α : Type) where
  /-- What the calls were made with, in their order. -/
  calls : List ConditionHead
  /-- What is made. -/
  result : Except ε α

namespace Noted

variable {ε α β : Type}

/-- What is made without a call. -/
def of (result : Except ε α) : Noted ε α := ⟨[], result⟩

/-- A call of a computed comparand. -/
def call (compute : ConditionHead → Option Value) (head : ConditionHead) :
    Noted ε (Option Value) :=
  ⟨[head], .ok (compute head)⟩

/-- What is made of the result. -/
def map (f : α → β) (noted : Noted ε α) : Noted ε β := ⟨noted.calls, noted.result.map f⟩

/-- What is made next, after an error nothing. -/
def bind (noted : Noted ε α) (next : α → Noted ε β) : Noted ε β :=
  match noted.result with
  | .ok a => ⟨noted.calls ++ (next a).calls, (next a).result⟩
  | .error error => ⟨noted.calls, .error error⟩

@[simp] theorem of_result (result : Except ε α) : (of result).result = result := rfl

@[simp] theorem of_calls (result : Except ε α) : (of result).calls = [] := rfl

@[simp] theorem map_result (f : α → β) (noted : Noted ε α) :
    (noted.map f).result = noted.result.map f := rfl

@[simp] theorem map_calls (f : α → β) (noted : Noted ε α) :
    (noted.map f).calls = noted.calls := rfl

/-- The results follow on each other as they do without notes. -/
@[simp] theorem bind_result (noted : Noted ε α) (next : α → Noted ε β) :
    (noted.bind next).result = noted.result.bind fun a => (next a).result := by
  unfold bind
  cases noted.result <;> rfl

end Noted

end ScopeQuery
