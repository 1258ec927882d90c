import ScopeQuery.Proofs.Mirrored
import ScopeQuery.Storage.Codec

/-!
# Shipped codecs

The codecs that come with the library: fields stored as they are, and columns of
another name or encoding. Their encoding never looks at the operator, so the same
comparand is stored alike, or fails alike, under any two operators.
-/

namespace ScopeQuery

/-- A codec that comes with the library. -/
inductive Codec.Shipped : Codec → Prop where
  /-- A field stored as it is. -/
  | passthrough (key : String) : Shipped (.passthrough key)
  /-- A column. -/
  | column (column : Column) : Shipped column.codec

/-- Every field has a codec that comes with the library, or none. -/
def Codecs.Shipped (codecs : Codecs) : Prop :=
  ∀ entity field codec, codecs entity field = .ok codec → codec.Shipped

/-- Storing every field as it is needs no other codec. -/
theorem Codecs.passthrough_shipped : Codecs.passthrough.Shipped := by
  intro entity field codec h
  obtain rfl := Except.ok.inj h
  exact .passthrough field

/-- A registry of shipped codecs gives no other codec, strict or not. -/
theorem CodecRegistry.codecs_shipped {registry : CodecRegistry}
    (h : ∀ entry ∈ registry.entries, entry.2.Shipped) : registry.codecs.Shipped := by
  intro entity field codec hcodec
  unfold codecs at hcodec
  split at hcodec
  · rename_i found hfound
    obtain rfl := Except.ok.inj hcodec
    obtain ⟨earlier, later, hentries, -⟩ := List.lookup_eq_some_iff.1 hfound
    exact h ((entity, field), found) (by simp [hentries])
  · split at hcodec
    · simp at hcodec
    · obtain rfl := Except.ok.inj hcodec
      exact .passthrough field

/-- Encodings that mirror each other encode lists alike. -/
theorem encodeAll_mirrored {encode other : Value → Except CompileError Value}
    (h : ∀ value, Mirrored id (encode value) (other value)) (items : List Value) :
    Mirrored id (encodeAll encode items) (encodeAll other items) := by
  induction items with
  | nil => exact .answered []
  | cons value rest ih =>
    rw [encodeAll, encodeAll]
    refine (h value).elim (fun e e' => .failed e e') fun encoded => ?_
    refine ih.elim (fun e e' => .failed e e') fun values => ?_
    exact .answered (encoded :: values)

/-- Encodings that mirror each other encode comparands alike. -/
theorem encodedArgument_mirrored {encode other : Value → Except CompileError Value}
    (h : ∀ value, Mirrored id (encode value) (other value)) (comparand : Option Comparand) :
    Mirrored id (encodedArgument encode comparand) (encodedArgument other comparand) := by
  match comparand with
  | none => exact .answered none
  | some (.scalar value) =>
    rw [encodedArgument, encodedArgument]
    refine (h value).elim (fun e e' => .failed e e') fun encoded => ?_
    exact .answered _
  | some (.list items) =>
    rw [encodedArgument, encodedArgument]
    refine (encodeAll_mirrored h items).elim (fun e e' => .failed e e') fun encoded => ?_
    exact .answered _
  | some .null => exact .answered _
  | some (.expression e) => exact .answered _
  | some (.computed compute) => exact .failed _ _

/-- A comparand that is encoded gives a value. -/
theorem encodedArgument_isSome {encode : Value → Except CompileError Value}
    {comparand : Comparand} {found : Option Argument}
    (h : encodedArgument encode (some comparand) = .ok found) : found.isSome = true := by
  cases comparand with
  | null =>
    obtain rfl := Except.ok.inj h
    rfl
  | scalar value =>
    rw [encodedArgument] at h
    split at h
    · obtain rfl := Except.ok.inj h
      rfl
    · simp at h
  | list items =>
    rw [encodedArgument] at h
    split at h
    · obtain rfl := Except.ok.inj h
      rfl
    · simp at h
  | expression e =>
    obtain rfl := Except.ok.inj h
    rfl
  | computed compute => cases h

namespace Column

/-- A value is encoded alike for two operators; only the errors tell them apart. -/
theorem encodeFor_mirrored (column : Column) (operator other : Option Operator) (value : Value) :
    Mirrored id (column.encodeFor operator value) (column.encodeFor other value) := by
  unfold encodeFor
  cases column.encode value with
  | error error => exact .failed _ _
  | ok encoded => exact .answered encoded

end Column

namespace Codec.Shipped

/-- A shipped codec stores a comparand alike under two operators, up to the operator. -/
theorem store_mirrored {codec : Codec} (h : codec.Shipped) (operator other : Option Operator)
    (comparand : Option Comparand) :
    Mirrored (fun stored => { stored with operator := other })
      (codec.store operator comparand) (codec.store other comparand) := by
  cases h with
  | passthrough key =>
    dsimp only [Codec.passthrough, Codec.ofEncoding]
    cases encodedArgument .ok comparand with
    | error error => exact .failed _ _
    | ok value => exact .answered _
  | column column =>
    dsimp only [Column.codec, Column.store]
    rw [column.storedArgument_eq, column.storedArgument_eq]
    have hencoded := encodedArgument_mirrored (column.encodeFor_mirrored operator other) comparand
    refine hencoded.elim (fun e e' => .failed e e') fun value => ?_
    exact .answered _

/-- A shipped codec keeps the operator, and stores a value for every comparand. -/
theorem store_shape {codec : Codec} (h : codec.Shipped) {operator : Option Operator}
    {comparand : Comparand} {stored : StoredCondition}
    (hstored : codec.store operator (some comparand) = .ok stored) :
    stored.operator = operator ∧ stored.value.isSome = true := by
  cases h with
  | passthrough key =>
    dsimp only [Codec.passthrough, Codec.ofEncoding] at hstored
    split at hstored
    · rename_i value hvalue
      obtain rfl := Except.ok.inj hstored
      exact ⟨rfl, encodedArgument_isSome hvalue⟩
    · simp at hstored
  | column column =>
    dsimp only [Column.codec, Column.store] at hstored
    rw [column.storedArgument_eq] at hstored
    split at hstored
    · rename_i value hvalue
      obtain rfl := Except.ok.inj hstored
      exact ⟨rfl, encodedArgument_isSome hvalue⟩
    · simp at hstored

end Codec.Shipped

end ScopeQuery
