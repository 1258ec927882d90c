import Mathlib.Data.List.Forall2
import ScopeQuery.Storage.Codec

/-!
# What columns store

A column stores a condition item by item, by a loop of its own. What it stores is what the
codec of its name and its encoding stores, and where that codec fails the column fails with
the same error and the operator in it. Null goes through every column as it is; a list keeps
its length and order, and the first item the encoder refuses is the error.
-/

namespace ScopeQuery

/-! ### Lists of encoded values -/

/-- The values of a list that is encoded. -/
theorem forall₂_of_encodeAll {encode : Value → Except CompileError Value}
    {items values : List Value} (h : encodeAll encode items = .ok values) :
    List.Forall₂ (fun item value => encode item = .ok value) items values := by
  induction items generalizing values with
  | nil =>
    obtain rfl := Except.ok.inj h
    exact .nil
  | cons item rest ih =>
    rw [encodeAll] at h
    split at h
    · cases h
    · rename_i value hvalue
      split at h
      · rename_i others hothers
        obtain rfl := Except.ok.inj h
        exact .cons hvalue (ih hothers)
      · cases h

/-- A list is encoded when every item is, each to the value in its place. -/
theorem encodeAll_eq_ok_iff {encode : Value → Except CompileError Value}
    {items values : List Value} :
    encodeAll encode items = .ok values ↔
      List.Forall₂ (fun item value => encode item = .ok value) items values := by
  refine ⟨forall₂_of_encodeAll, fun h => ?_⟩
  induction h with
  | nil => rfl
  | cons hitem _ ih =>
    rw [encodeAll, hitem, ih]

/-- The first item of a list that has an error. -/
theorem exists_first_of_encodeAll {encode : Value → Except CompileError Value}
    {items : List Value} {error : CompileError} (h : encodeAll encode items = .error error) :
    ∃ before item after, items = before ++ item :: after ∧
      (∀ earlier ∈ before, ∃ value, encode earlier = .ok value) ∧
      encode item = .error error := by
  induction items with
  | nil => cases h
  | cons first rest ih =>
    rw [encodeAll] at h
    split at h
    · rename_i failure hfailure
      obtain rfl := Except.error.inj h
      exact ⟨[], first, rest, rfl, by simp, hfailure⟩
    · rename_i value hvalue
      split at h
      · cases h
      · rename_i failure hfailure
        obtain rfl := Except.error.inj h
        obtain ⟨before, item, after, rfl, hbefore, hitem⟩ := ih hfailure
        exact ⟨first :: before, item, after, rfl,
          List.forall_mem_cons.2 ⟨⟨value, hvalue⟩, hbefore⟩, hitem⟩

/-- The error of a list is that of the first item that has one. -/
theorem encodeAll_eq_error_iff {encode : Value → Except CompileError Value}
    {items : List Value} {error : CompileError} :
    encodeAll encode items = .error error ↔
      ∃ before item after, items = before ++ item :: after ∧
        (∀ earlier ∈ before, ∃ value, encode earlier = .ok value) ∧
        encode item = .error error := by
  refine ⟨exists_first_of_encodeAll, ?_⟩
  rintro ⟨before, item, after, rfl, hbefore, hitem⟩
  induction before with
  | nil => rw [List.nil_append, encodeAll, hitem]
  | cons first before ih =>
    obtain ⟨⟨value, hvalue⟩, hrest⟩ := List.forall_mem_cons.1 hbefore
    rw [List.cons_append, encodeAll, hvalue, ih hrest]

/-- Errors of items can be changed before the list is encoded or after. -/
theorem encodeAll_mapError (encode : Value → Except CompileError Value)
    (change : CompileError → CompileError) (items : List Value) :
    encodeAll (fun value => (encode value).mapError change) items =
      (encodeAll encode items).mapError change := by
  induction items with
  | nil => rfl
  | cons item rest ih =>
    rw [encodeAll, encodeAll, ih]
    cases encode item with
    | error error => rfl
    | ok value => cases encodeAll encode rest <;> rfl

/-- Errors of encoding can be changed before a comparand is encoded or after, when errors
of the query are left alone. -/
theorem encodedArgument_mapError (encode : Value → Except CompileError Value)
    (change : CompileError → CompileError) (hquery : ∀ error, change (.query error) = .query error)
    (comparand : Option Comparand) :
    encodedArgument (fun value => (encode value).mapError change) comparand =
      (encodedArgument encode comparand).mapError change := by
  match comparand with
  | none | some .null | some (.expression e) => rfl
  | some (.scalar value) =>
    rw [encodedArgument, encodedArgument]
    cases encode value <;> rfl
  | some (.list items) =>
    rw [encodedArgument, encodedArgument, encodeAll_mapError]
    cases encodeAll encode items <;> rfl
  | some (.computed compute) =>
    change Except.error _ = Except.error (change (.query (.unfitValue .unresolvedComputed)))
    rw [hquery]

namespace Column

variable (column : Column)

/-! ### Single values -/

/-- What a column stores for a value: null as it is, any value as it is when there is no
encoder, and else what the encoder gives for it. -/
inductive Stores : Value → Value → Prop where
  /-- Null is not encoded. -/
  | null : Stores .null .null
  /-- There is no encoder. -/
  | kept (value : Value) (hencoder : column.encoder = none) : Stores value value
  /-- The encoder gives the stored value. -/
  | encoded {encoder : Value → Except String Value} {value stored : Value}
      (hencoder : column.encoder = some encoder) (hvalue : value.isNull = false)
      (hstored : encoder value = .ok stored) : Stores value stored

/-- Whether the encoder of a column refuses a value with a message. -/
def Refuses (value : Value) (message : String) : Prop :=
  value.isNull = false ∧
    ∃ encoder, column.encoder = some encoder ∧ encoder value = .error message

/-- Null is stored as null. -/
theorem encode_null : column.encode .null = .ok .null := by
  rw [encode]
  split <;> rfl

/-- A value is encoded to what the column stores for it. -/
theorem encode_eq_ok_iff {value stored : Value} :
    column.encode value = .ok stored ↔ column.Stores value stored := by
  constructor
  · intro h
    rw [encode] at h
    split at h
    · rename_i hencoder
      obtain rfl := Except.ok.inj h
      exact .kept value hencoder
    · rename_i encoder hencoder
      split at h
      · rename_i hnull
        obtain rfl := Except.ok.inj h
        cases value with
        | null => exact .null
        | _ => cases hnull
      · rename_i hnull
        split at h
        · rename_i found hfound
          obtain rfl := Except.ok.inj h
          exact .encoded hencoder (by simpa using hnull) hfound
        · cases h
  · intro h
    cases h with
    | null => exact column.encode_null
    | kept _ hencoder => simp [encode, hencoder]
    | encoded hencoder hvalue hstored => simp [encode, hencoder, hvalue, hstored]

/-- A value has no stored form when the encoder refuses it. -/
theorem encode_eq_error_iff {value : Value} {error : CompileError} :
    column.encode value = .error error ↔
      ∃ message, column.Refuses value message ∧
        error = .encoding column.field none value.text message := by
  constructor
  · intro h
    rw [encode] at h
    split at h
    · cases h
    · rename_i encoder hencoder
      split at h
      · cases h
      · rename_i hnull
        split at h
        · cases h
        · rename_i message hmessage
          exact ⟨message, ⟨by simpa using hnull, encoder, hencoder, hmessage⟩,
            (Except.error.inj h).symm⟩
  · rintro ⟨message, ⟨hvalue, encoder, hencoder, hmessage⟩, rfl⟩
    simp [encode, hencoder, hvalue, hmessage]

/-- In a condition only the error tells the operator. -/
theorem encodeFor_eq_mapError (operator : Option Operator) :
    column.encodeFor operator =
      fun value => (column.encode value).mapError (withOperator operator) := by
  funext value
  rw [encodeFor]
  cases column.encode value <;> rfl

/-! ### Conditions -/

/-- A column stores what the codec of its name and encoding does, and puts the operator into
the errors. -/
theorem store_eq_mapError (operator : Option Operator) (comparand : Option Comparand) :
    column.store operator comparand =
      ((Codec.ofEncoding column.name column.encode).store operator comparand).mapError
        (withOperator operator) := by
  have hargument :=
    encodedArgument_mapError column.encode (withOperator operator) (fun _ => rfl) comparand
  rw [store, storedArgument_eq, encodeFor_eq_mapError, hargument]
  dsimp only [Codec.ofEncoding]
  cases encodedArgument column.encode comparand <;> rfl

/-- What a column stores for a null is null. -/
theorem Stores.eq_null {stored : Value} (h : column.Stores .null stored) : stored = .null := by
  cases h with
  | null => rfl
  | kept => rfl
  | encoded _ hvalue => cases hvalue

/-- The nulls of a list stay where they are. -/
theorem null_of_stores {items values : List Value} (h : List.Forall₂ column.Stores items values)
    {i : Nat} (hitem : items[i]? = some .null) : values[i]? = some .null := by
  induction h generalizing i with
  | nil => cases hitem
  | cons hfirst _ ih =>
    cases i with
    | zero =>
      obtain rfl := Option.some.inj hitem
      exact congrArg some (hfirst.eq_null)
    | succ i => exact ih hitem

/-- What a column stores for a list. -/
theorem store_list (operator : Option Operator) (items : List Value) :
    column.store operator (some (.list items)) =
      match encodeAll column.encode items with
      | .ok values => .ok ⟨.text column.name, operator, some (.literal (.array values))⟩
      | .error error => .error (withOperator operator error) := by
  rw [store_eq_mapError]
  dsimp only [Codec.ofEncoding]
  rw [encodedArgument]
  cases encodeAll column.encode items <;> rfl

/-- A list is stored when every item is, each in its place. -/
theorem store_list_eq_ok_iff {operator : Option Operator} {items : List Value}
    {stored : StoredCondition} :
    column.store operator (some (.list items)) = .ok stored ↔
      ∃ values, List.Forall₂ column.Stores items values ∧
        stored = ⟨.text column.name, operator, some (.literal (.array values))⟩ := by
  have hstores (values : List Value) :
      encodeAll column.encode items = .ok values ↔ List.Forall₂ column.Stores items values := by
    simp only [encodeAll_eq_ok_iff, encode_eq_ok_iff]
  rw [store_list]
  constructor
  · intro h
    split at h
    · rename_i values hvalues
      exact ⟨values, (hstores values).1 hvalues, (Except.ok.inj h).symm⟩
    · cases h
  · rintro ⟨values, hvalues, rfl⟩
    rw [(hstores values).2 hvalues]

/-- A value has a stored form when the encoder does not refuse it. -/
theorem encode_ok_iff_not_refused {value : Value} :
    (∃ stored, column.encode value = .ok stored) ↔ ∀ message, ¬column.Refuses value message := by
  constructor
  · rintro ⟨stored, hstored⟩ message hmessage
    have herror := column.encode_eq_error_iff.2 ⟨message, hmessage, rfl⟩
    rw [hstored] at herror
    cases herror
  · intro h
    cases hvalue : column.encode value with
    | ok stored => exact ⟨stored, rfl⟩
    | error error =>
      obtain ⟨message, hmessage, -⟩ := column.encode_eq_error_iff.1 hvalue
      exact absurd hmessage (h message)

/-- A list fails at its first item that the encoder refuses. -/
theorem store_list_eq_error_iff {operator : Option Operator} {items : List Value}
    {error : CompileError} :
    column.store operator (some (.list items)) = .error error ↔
      ∃ before item after message, items = before ++ item :: after ∧
        (∀ earlier ∈ before, ∀ refusal, ¬column.Refuses earlier refusal) ∧
        column.Refuses item message ∧
        error = .encoding column.field operator item.text message := by
  rw [store_list]
  constructor
  · intro h
    split at h
    · cases h
    · rename_i failure hfailure
      obtain rfl := Except.error.inj h
      obtain ⟨before, item, after, hitems, hbefore, hitem⟩ := encodeAll_eq_error_iff.1 hfailure
      obtain ⟨message, hmessage, rfl⟩ := column.encode_eq_error_iff.1 hitem
      exact ⟨before, item, after, message, hitems,
        fun earlier hearlier => column.encode_ok_iff_not_refused.1 (hbefore earlier hearlier),
        hmessage, rfl⟩
  · rintro ⟨before, item, after, message, hitems, hbefore, hmessage, rfl⟩
    have hitem := column.encode_eq_error_iff.2 ⟨message, hmessage, rfl⟩
    have hfailure := encodeAll_eq_error_iff.2 ⟨before, item, after, hitems,
      fun earlier hearlier => column.encode_ok_iff_not_refused.2 (hbefore earlier hearlier), hitem⟩
    rw [hfailure]
    rfl

/-- A column stores conditions as the codec of its name and its encoding does. Under every
operator and for every comparand it gives the same key, operator and value, or fails with the
same error but for the operator in it. A list is stored item by item in its order and length,
and fails at the first item the encoder refuses, with the message of the encoder. Nulls are not
encoded, alone or in a list. -/
theorem store_agrees_with_encoding (column : Column) (operator : Option Operator) :
    (∀ comparand, column.store operator comparand =
      ((Codec.ofEncoding column.name column.encode).store operator comparand).mapError
        (withOperator operator)) ∧
    (∀ items stored, column.store operator (some (.list items)) = .ok stored ↔
      ∃ values, List.Forall₂ column.Stores items values ∧
        stored = ⟨.text column.name, operator, some (.literal (.array values))⟩) ∧
    (∀ items error, column.store operator (some (.list items)) = .error error ↔
      ∃ before item after message, items = before ++ item :: after ∧
        (∀ earlier ∈ before, ∀ refusal, ¬column.Refuses earlier refusal) ∧
        column.Refuses item message ∧
        error = .encoding column.field operator item.text message) ∧
    (∀ comparand ∈ [Comparand.null, .scalar .null], column.store operator (some comparand) =
      .ok ⟨.text column.name, operator, some (.literal .null)⟩) ∧
    ∀ items values, List.Forall₂ column.Stores items values →
      values.length = items.length ∧
        ∀ i : Nat, items[i]? = some .null → values[i]? = some .null := by
  refine ⟨column.store_eq_mapError operator, fun items stored => column.store_list_eq_ok_iff,
    fun items error => column.store_list_eq_error_iff, ?_,
    fun items values h => ⟨h.length_eq.symm, fun i => column.null_of_stores h⟩⟩
  have hscalar : column.store operator (some (.scalar .null)) =
      .ok ⟨.text column.name, operator, some (.literal .null)⟩ := by
    rw [store, storedArgument, encodeFor, encode_null]
  intro comparand hnull
  obtain rfl | rfl : comparand = .null ∨ comparand = .scalar .null := by simpa using hnull
  · rfl
  · exact hscalar

end Column

end ScopeQuery
