import ScopeQuery.Proofs.ArrayRule
import ScopeQuery.Proofs.LeafPredicates

/-!
# Fields stored as they are

A field without a codec of its own is stored under its own name, and a value it is compared with
reaches the statement unchanged: as the literal of the value that the comparand was made from.
-/

namespace ScopeQuery

/-- A value is written as its literal, whichever form of comparand it was given. -/
theorem plainArgument_ofValue (value : Value) :
    plainArgument (.ofValue value) = .ok (.literal value) := by
  cases value <;> rfl

/-- Items that are stored as they are. -/
theorem encodeAll_ok (items : List Value) : encodeAll .ok items = .ok items := by
  induction items with
  | nil => rfl
  | cons item rest ih =>
    rw [encodeAll]
    dsimp only
    rw [ih]

/-- A value that is stored as it is. -/
theorem encodedArgument_ofValue (value : Value) :
    encodedArgument .ok (some (.ofValue value)) = .ok (some (.literal value)) := by
  cases value with
  | array items => rw [Comparand.ofValue, encodedArgument, encodeAll_ok]
  | _ => rfl

/-- A condition is stored under the key of its codec with the encoded comparand. -/
theorem Codec.store_ofEncoding (key : String) (operator : Option Operator)
    {encode : Value → Except CompileError Value} {comparand : Option Comparand}
    {value : Option Argument} (h : encodedArgument encode comparand = .ok value) :
    (ofEncoding key encode).store operator comparand = .ok ⟨.text key, operator, value⟩ := by
  dsimp only [ofEncoding]
  rw [h]

namespace Compiler

variable {compiler : Compiler} (hcodecs : compiler.codecs = .passthrough) (entity : Entity)
  (field : String) (subject : Option Subject)
include hcodecs

/-- A field alone is a predicate itself. -/
theorem fieldPredicate_bare :
    compiler.fieldPredicate entity field ⟨subject, none⟩ =
      .ok (Expression.ofTemplate "\x7b\x7b\x7d\x7d"
        [entity.qualifyArgument (.text field)]).predicate := by
  rw [fieldPredicate, hcodecs]
  rfl

/-- A field is compared with the value that was given. -/
theorem fieldPredicate_ofValue (operator : Operator) (value : Value) :
    compiler.fieldPredicate entity field ⟨subject, some (operator, .ofValue value)⟩ =
      .ok (comparisonPredicate (entity.qualifyArgument (.text field)) (some operator)
        (.literal value)) := by
  have hstored := Codec.store_ofEncoding field (some operator) (encodedArgument_ofValue value)
  rw [fieldPredicate, hcodecs, Codecs.passthrough]
  dsimp only [Condition.operator, Condition.comparand, Option.map_some]
  rw [Codec.passthrough, hstored]

end Compiler

end ScopeQuery
