import ScopeQuery.Number.Basic

/-!
# Values

The values that conditions compare with, statements bind and rows hold. They
have the shape of data documents, with one number type. The fields of an object
are kept in the order of their keys, each key once, so that equal objects are
equal lists.
-/

namespace ScopeQuery

/-- A null, scalar, array or object. -/
inductive Value where
  /-- The absent value. -/
  | null
  /-- A truth value. -/
  | bool (b : Bool)
  /-- A binary64 number. -/
  | number (x : Number)
  /-- A text. -/
  | string (s : String)
  /-- Values in order. -/
  | array (items : List Value)
  /-- Values under keys, in the order of the keys. -/
  | object (fields : List (String × Value))

/-- A row in memory: values under the names of its columns. -/
abbrev Row := List (String × Value)

/-- The value a row has under a column, null when it has none. -/
def Row.value (row : Row) (column : String) : Value := (row.lookup column).getD .null

namespace Value

/-- Whether the value is null. -/
def isNull : Value → Bool
  | .null => true
  | _ => false

/-- Whether the value is an array. -/
def isArray : Value → Bool
  | .array _ => true
  | _ => false

/-- The text of a string value. -/
def string? : Value → Option String
  | .string s => some s
  | _ => none

/-- The number of a number value. -/
def number? : Value → Option Number
  | .number x => some x
  | _ => none

/-- What kind of value it is, as error messages name it. -/
def typeName : Value → String
  | .null => "null"
  | .bool _ => "bool"
  | .number _ => "number"
  | .string _ => "string"
  | .array _ => "array"
  | .object _ => "object"

/-- Texts are ordered by their characters' code points, a shorter one before
its continuations. -/
def compareTexts : List Char → List Char → Ordering
  | [], [] => .eq
  | [], _ :: _ => .lt
  | _ :: _, [] => .gt
  | c :: left, d :: right =>
    if c.toNat < d.toNat then .lt
    else if d.toNat < c.toNat then .gt
    else compareTexts left right

/-- The order of two scalars of the same kind. Nulls, arrays, objects and values
of different kinds have none. -/
def compare : Value → Value → Option Ordering
  | .number left, .number right => left.compare right
  | .string left, .string right => some (compareTexts left.toList right.toList)
  | .bool left, .bool right => some (Ord.compare left.toNat right.toNat)
  | _, _ => none

mutual

/-- Equality of values, with numeric equality of numbers at every depth. -/
def eq : Value → Value → Bool
  | .null, .null => true
  | .bool left, .bool right => left == right
  | .number left, .number right => left.eq right
  | .string left, .string right => left == right
  | .array left, .array right => eqItems left right
  | .object left, .object right => eqFields left right
  | _, _ => false

/-- Equality of two lists of values, item by item. -/
def eqItems : List Value → List Value → Bool
  | [], [] => true
  | v :: left, w :: right => eq v w && eqItems left right
  | _, _ => false

/-- Equality of two lists of fields, key by key and value by value. -/
def eqFields : List (String × Value) → List (String × Value) → Bool
  | [], [] => true
  | (k, v) :: left, (l, w) :: right => k == l && eq v w && eqFields left right
  | _, _ => false

end

mutual

/-- Two values are equal in either order. -/
theorem eq_swap (v w : Value) : eq v w = eq w v := by
  cases v with
  | null => cases w <;> rfl
  | bool b =>
    cases w with
    | bool c => exact Bool.beq_comm
    | _ => rfl
  | number x =>
    cases w with
    | number y => exact Number.eq_swap x y
    | _ => rfl
  | string s =>
    cases w with
    | string t =>
      rw [eq, eq]
      exact Bool.beq_comm
    | _ => rfl
  | array items =>
    cases w with
    | array others =>
      rw [eq, eq]
      exact eqItems_swap items others
    | _ => rfl
  | object fields =>
    cases w with
    | object others =>
      rw [eq, eq]
      exact eqFields_swap fields others
    | _ => rfl

/-- Two lists of values are equal in either order. -/
theorem eqItems_swap (items others : List Value) :
    eqItems items others = eqItems others items := by
  cases items with
  | nil => cases others <;> rfl
  | cons v rest =>
    cases others with
    | nil => rfl
    | cons w following => rw [eqItems, eqItems, eq_swap v w, eqItems_swap rest following]

/-- Two lists of fields are equal in either order. -/
theorem eqFields_swap (fields others : List (String × Value)) :
    eqFields fields others = eqFields others fields := by
  cases fields with
  | nil => cases others <;> rfl
  | cons field rest =>
    cases others with
    | nil => rfl
    | cons other following =>
      rw [eqFields, eqFields, eq_swap field.2 other.2, eqFields_swap rest following,
        Bool.beq_comm]

end

/-- A field put in its place by key; a field of the same key is replaced. -/
def insertField (key : String) (value : Value) :
    List (String × Value) → List (String × Value)
  | [] => [(key, value)]
  | (k, v) :: rest =>
    match compareTexts key.toList k.toList with
    | .lt => (key, value) :: (k, v) :: rest
    | .eq => (key, value) :: rest
    | .gt => (k, v) :: insertField key value rest

/-- Fields in the order of their keys; of several with one key the last stays. -/
def orderedFields (fields : List (String × Value)) : List (String × Value) :=
  fields.foldl (fun ordered (key, value) => insertField key value ordered) []

/-- The object with these fields; of several with one key the last counts. -/
def ofFields (fields : List (String × Value)) : Value := .object (orderedFields fields)

end Value

end ScopeQuery
