import ScopeQuery.Condition.Basic
import ScopeQuery.Error.Compile

/-!
# Codecs

A codec says under which key a field is stored and how its values are encoded
there. Compiling a scope and matching rows ask the same codecs, so a value that
is compiled into a statement is the value rows are compared with.
-/

namespace ScopeQuery

/-- A condition as the storage sees it. -/
structure StoredCondition where
  /-- The storage key. -/
  key : Argument
  /-- The operator. -/
  operator : Option Operator
  /-- The encoded value. -/
  value : Option Argument

/-- How the values of a field are stored. -/
structure Codec where
  /-- The key the field is stored under. -/
  key : String
  /-- The stored form of a value. -/
  encode : Value → Except CompileError Value
  /-- The stored form of a condition, given its operator and comparand. -/
  store : Option Operator → Option Comparand → Except CompileError StoredCondition

/-- The encoded forms of several values; the first that has none is the error. -/
def encodeAll (encode : Value → Except CompileError Value) :
    List Value → Except CompileError (List Value)
  | [] => .ok []
  | value :: rest =>
    match encode value with
    | .error error => .error error
    | .ok value =>
      match encodeAll encode rest with
      | .ok values => .ok (value :: values)
      | .error error => .error error

/-- A comparand as an argument, with the error of an unresolved one passed on. -/
def plainArgument (comparand : Comparand) : Except CompileError Argument :=
  match comparand.toArgument with
  | .ok argument => .ok argument
  | .error error => .error (.query error)

/-- The encoded form of a comparand: scalars and the items of lists are encoded,
every other comparand is kept. -/
def encodedArgument (encode : Value → Except CompileError Value) :
    Option Comparand → Except CompileError (Option Argument)
  | none => .ok none
  | some (.scalar value) =>
    match encode value with
    | .ok value => .ok (some (.literal value))
    | .error error => .error error
  | some (.list items) =>
    match encodeAll encode items with
    | .ok items => .ok (some (.literal (.array items)))
    | .error error => .error error
  | some comparand =>
    match plainArgument comparand with
    | .ok argument => .ok (some argument)
    | .error error => .error error

namespace Codec

/-- The codec of a key and an encoding. -/
def ofEncoding (key : String) (encode : Value → Except CompileError Value) : Codec :=
  { key, encode
    store := fun operator comparand =>
      match encodedArgument encode comparand with
      | .ok value => .ok ⟨.text key, operator, value⟩
      | .error error => .error error }

/-- The codec that stores values as they are. -/
def passthrough (key : String) : Codec := .ofEncoding key .ok

end Codec

/-- A field stored in a column of another name or encoding. -/
structure Column where
  /-- The field, which errors name. -/
  field : String
  /-- The name of the column. -/
  name : String
  /-- The encoding of values that are not null; none keeps them. -/
  encoder : Option (Value → Except String Value)

namespace Column

/-- The stored form of a value. Null is never encoded, so null tests survive. -/
def encode (column : Column) (value : Value) : Except CompileError Value :=
  match column.encoder with
  | none => .ok value
  | some encoder =>
    if value.isNull then .ok value
    else
      match encoder value with
      | .ok encoded => .ok encoded
      | .error message => .error (.encoding column.field none value.text message)

/-- An encoding error with the operator of its condition. -/
def withOperator (operator : Option Operator) : CompileError → CompileError
  | .encoding field _ value message => .encoding field operator value message
  | error => error

/-- The stored form of a value in a condition. -/
def encodeFor (column : Column) (operator : Option Operator) (value : Value) :
    Except CompileError Value :=
  match column.encode value with
  | .ok value => .ok value
  | .error error => .error (withOperator operator error)

/-- The stored forms of the items of a list, behind those stored so far. The first item
that has none ends it. -/
def storeItems (column : Column) (operator : Option Operator) (stored : List Value) :
    List Value → Except CompileError (List Value)
  | [] => .ok stored
  | item :: rest =>
    match column.encodeFor operator item with
    | .ok value => column.storeItems operator (stored ++ [value]) rest
    | .error error => .error error

/-- The value of a condition in its stored form. -/
def storedArgument (column : Column) (operator : Option Operator) :
    Option Comparand → Except CompileError (Option Argument)
  | some (.scalar value) =>
    match column.encodeFor operator value with
    | .ok value => .ok (some (.literal value))
    | .error error => .error error
  | some (.list items) =>
    match column.storeItems operator [] items with
    | .ok items => .ok (some (.literal (.array items)))
    | .error error => .error error
  | some comparand =>
    match plainArgument comparand with
    | .ok argument => .ok (some argument)
    | .error error => .error error
  | none => .ok none

/-- The stored form of a condition. -/
def store (column : Column) (operator : Option Operator) (comparand : Option Comparand) :
    Except CompileError StoredCondition :=
  match column.storedArgument operator comparand with
  | .ok value => .ok ⟨.text column.name, operator, value⟩
  | .error error => .error error

/-- Items go behind those stored so far. -/
theorem storeItems_eq (column : Column) (operator : Option Operator) (stored items : List Value) :
    column.storeItems operator stored items =
      (encodeAll (column.encodeFor operator) items).map (stored ++ ·) := by
  induction items generalizing stored with
  | nil => simp [storeItems, encodeAll, Except.map]
  | cons item rest ih =>
    rw [storeItems, encodeAll]
    cases column.encodeFor operator item with
    | error error => rfl
    | ok value =>
      dsimp only
      rw [ih]
      cases encodeAll (column.encodeFor operator) rest with
      | error error => rfl
      | ok values => simp [Except.map]

/-- A column encodes a comparand value by value. -/
theorem storedArgument_eq (column : Column) (operator : Option Operator)
    (comparand : Option Comparand) :
    column.storedArgument operator comparand =
      encodedArgument (column.encodeFor operator) comparand := by
  match comparand with
  | some (.list items) =>
    rw [storedArgument, encodedArgument, storeItems_eq]
    cases encodeAll (column.encodeFor operator) items <;> rfl
  | none | some .null | some (.scalar _) | some (.expression _) | some (.computed _) => rfl

/-- The column as a codec. -/
def codec (column : Column) : Codec := ⟨column.name, column.encode, column.store⟩

end Column

/-- Which codec the field of an entity has. -/
abbrev Codecs := String → String → Except CompileError Codec

/-- Every field is stored under its own name as it is. -/
def Codecs.passthrough : Codecs := fun _ field => .ok (.passthrough field)

/-- Codecs registered by entity and field. -/
structure CodecRegistry where
  /-- The registered codecs; a later registration stands first. -/
  entries : List ((String × String) × Codec)
  /-- Whether fields without a codec are unknown. -/
  strict : Bool

namespace CodecRegistry

/-- A codec for a field of an entity, in place of an earlier one. -/
def register (registry : CodecRegistry) (entity field : String) (codec : Codec) :
    CodecRegistry :=
  { registry with entries := ((entity, field), codec) :: registry.entries }

/-- The codec of each field. One without a codec is stored as it is, or is unknown
when the registry is strict. -/
def codecs (registry : CodecRegistry) : Codecs := fun entity field =>
  match registry.entries.lookup (entity, field) with
  | some codec => .ok codec
  | none =>
    if registry.strict then .error (.unknownField entity field)
    else .ok (.passthrough field)

end CodecRegistry

end ScopeQuery
