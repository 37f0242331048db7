import KafkaWire.Schema.Basic

/-!
# Structs

Values in the shape that schemas describe: a struct holds one value for each field of its schema,
in order, and gives access to them by name. A struct is not checked against its schema until it
is written, so a field may be without value or hold one of the wrong kind.

Replacing a value returns a new struct. A caller that holds a struct and changes it in place goes
through the steps of `Struct.exchange` instead, which could leave something half done. They do not,
for everything is checked before anything is written.

## Main definitions

* `Value`, `Struct` — the values, with their `Value.Kind`
* `Struct.get`, `Struct.getText`, … — reading a field
* `Struct.set`, `Struct.replace`, `Struct.modifyArray`, `Struct.modifyStruct` — changing one
* `Struct.put` — a struct with one value exchanged, unchecked
* `Struct.exchange` — the replacement in a struct that is held

## Main results

* `Struct.set_eq_put`, `Struct.replace_eq_ok` — the checked changes, where they succeed
* `Struct.exchange_of_replace`, `Struct.exchange_of_refusal` — the same in place
-/

namespace KafkaWire

mutual

/-- A value of a field. -/
inductive Value
  | primitive (kind : Primitive.Kind) (value : kind.Carrier)
  /-- The elements of an array, or null, which is kept apart from no elements. -/
  | array (items : Option (List Value))
  | struct (value : Struct)

/-- Values for the fields of a schema. -/
structure Struct where
  schema : Schema
  values : List Value

end

namespace Value

/-- What a value is. -/
inductive Kind
  | primitive (kind : Primitive.Kind)
  | array
  | struct
  deriving DecidableEq, Repr

/-- How messages name a kind. -/
def Kind.name : Kind → String
  | .primitive kind => kind.name
  | .array => "array"
  | .struct => "struct"

/-- The kind of a value. -/
def kind : Value → Kind
  | .primitive kind _ => .primitive kind
  | .array _ => .array
  | .struct _ => .struct

/-- The value itself, if it is of that kind. -/
def as? (kind : Primitive.Kind) : Value → Option kind.Carrier
  | .primitive kind' value => if h : kind' = kind then some (h ▸ value) else none
  | _ => none

@[simp] theorem as?_eq_some {kind : Primitive.Kind} {v : Value} {x : kind.Carrier} :
    v.as? kind = some x ↔ v = .primitive kind x := by
  cases v with
  | primitive kind' value =>
    simp only [as?, primitive.injEq]
    constructor
    · intro h
      split at h
      · subst_vars; simp_all
      · cases h
    · rintro ⟨rfl, h⟩
      simp [eq_of_heq h]
  | array items => simp [as?]
  | struct value => simp [as?]

/-- A text. -/
@[match_pattern] abbrev string (s : String) : Value := .primitive .string s

/-- A text or null. -/
@[match_pattern] abbrev nullableString (s : Option String) : Value :=
  .primitive .nullableString s

/-- A 16-bit integer. -/
@[match_pattern] abbrev int16 (n : Int16) : Value := .primitive .int16 n

/-- A 32-bit integer. -/
@[match_pattern] abbrev int32 (n : Int32) : Value := .primitive .int32 n

end Value

namespace Struct

/-- The position of a field. -/
def indexOf (s : Struct) (name : String) : Except Error Nat :=
  match s.schema.indexOf? name with
  | some i => .ok i
  | none => .error (.schemaDecoding (.unknownField name s.schema.name))

/-- The value of a field. -/
def get (s : Struct) (name : String) : Except Error Value := do
  let i ← s.indexOf name
  match s.values[i]? with
  | some value => return value
  | none => throw (.schemaDecoding (.missingValue name))

theorem get_eq_ok {s : Struct} {name : String} {v : Value} : s.get name = .ok v ↔
    ∃ i, s.schema.indexOf? name = some i ∧ s.values[i]? = some v := by
  simp only [get, indexOf, bind, Except.bind]
  cases s.schema.indexOf? name with
  | none => simp
  | some i =>
    cases hv : s.values[i]? with
    | none => simp [hv, throw, throwThe, MonadExceptOf.throw]
    | some u => simp [hv, pure, Except.pure]

/-- The error of finding `found` in a field where something else was expected. -/
def mismatch (s : Struct) (name expected : String) (found : Value) : Error :=
  .schemaDecoding (.wrongKind s.schema.name name expected found.kind.name)

/-- The text of a field that is not null. -/
def getText (s : Struct) (name : String) : Except Error String := do
  match ← s.get name with
  | .string text => return text
  | .nullableString (some text) => return text
  | other => throw (s.mismatch name "string" other)

/-- The text of a field, or null. -/
def getNullableText (s : Struct) (name : String) : Except Error (Option String) := do
  match ← s.get name with
  | .string text => return some text
  | .nullableString text => return text
  | other => throw (s.mismatch name "nullable string" other)

/-- The 16-bit integer of a field. -/
def getInt16 (s : Struct) (name : String) : Except Error Int16 := do
  match ← s.get name with
  | .int16 n => return n
  | other => throw (s.mismatch name "int16" other)

/-- The 32-bit integer of a field. -/
def getInt32 (s : Struct) (name : String) : Except Error Int32 := do
  match ← s.get name with
  | .int32 n => return n
  | other => throw (s.mismatch name "int32" other)

/-- The elements of an array field; null has none. -/
def getArray (s : Struct) (name : String) : Except Error (List Value) := do
  match ← s.get name with
  | .array items => return items.getD []
  | other => throw (s.mismatch name "array" other)

/-- The struct of a field. -/
def getStruct (s : Struct) (name : String) : Except Error Struct := do
  match ← s.get name with
  | .struct value => return value
  | other => throw (s.mismatch name "struct" other)

/-! ### Changing a field -/

/-- Gives a field any value, whatever its kind. The field must hold a value already. -/
def set (s : Struct) (name : String) (value : Value) : Except Error Struct := do
  let i ← s.indexOf name
  discard <| s.get name
  return { s with values := s.values.set i value }

/-- Gives a field a value of the same kind as the one it holds, which is returned. -/
def replace (s : Struct) (name : String) (value : Value) : Except Error (Value × Struct) := do
  let old ← s.get name
  if old.kind ≠ value.kind then
    throw (.schemaEncoding (.replacement old.kind.name s.schema.name name value.kind.name))
  return (old, ← s.set name value)

/-- Changes the elements of an array field and returns what the change returns. Null has no
elements and stays null. -/
def modifyArray {m : Type → Type} [Monad m] {α : Type} (s : Struct) (name : String)
    (change : List Value → ExceptT Error m (α × List Value)) : ExceptT Error m (α × Struct) := do
  match ← MonadExcept.ofExcept (s.get name) with
  | .array none =>
    let (a, _) ← change []
    return (a, s)
  | .array (some items) =>
    let (a, items) ← change items
    return (a, ← MonadExcept.ofExcept (s.set name (.array (some items))))
  | other => throw (s.mismatch name "array" other)

/-- Changes the struct of a field and returns what the change returns. -/
def modifyStruct {m : Type → Type} [Monad m] {α : Type} (s : Struct) (name : String)
    (change : Struct → ExceptT Error m (α × Struct)) : ExceptT Error m (α × Struct) := do
  match ← MonadExcept.ofExcept (s.get name) with
  | .struct value =>
    let (a, value) ← change value
    return (a, ← MonadExcept.ofExcept (s.set name (.struct value)))
  | other => throw (s.mismatch name "struct" other)

/-! ### Replacing a value -/

/-- The struct with another value in a field. Without that field it stays as it is. -/
def put (s : Struct) (name : String) (v : Value) : Struct :=
  match s.schema.indexOf? name with
  | some i => ⟨s.schema, s.values.set i v⟩
  | none => s

section Replace

variable {s s' : Struct} {name : String} {v old : Value} {e : Error}

theorem put_of_indexOf {i : Nat} (h : s.schema.indexOf? name = some i) :
    s.put name v = ⟨s.schema, s.values.set i v⟩ := by
  rw [put, h]

theorem set_eq_put (h : s.get name = .ok old) : s.set name v = .ok (s.put name v) := by
  obtain ⟨i, hindex, -⟩ := get_eq_ok.mp h
  rw [put_of_indexOf hindex]
  simp only [set, indexOf, hindex, h, bind, Except.bind, discard, Functor.discard,
    Functor.mapConst, pure, Except.pure]
  rfl

theorem replace_eq_put (h : s.get name = .ok old) (hkind : old.kind = v.kind) :
    s.replace name v = .ok (old, s.put name v) := by
  simp only [replace, h, bind, Except.bind, hkind, ne_eq, not_true_eq_false, if_false,
    set_eq_put h, pure, Except.pure]

theorem replace_of_get_eq_error (h : s.get name = .error e) : s.replace name v = .error e := by
  rw [replace, h]
  rfl

theorem replace_of_kind_ne (h : s.get name = .ok old) (hkind : old.kind ≠ v.kind) :
    s.replace name v = .error
      (.schemaEncoding (.replacement old.kind.name s.schema.name name v.kind.name)) := by
  simp only [replace, h, bind, Except.bind, if_pos hkind]
  rfl

/-- **A value is replaced** exactly if there is one in the field, of the same kind. -/
theorem replace_eq_ok : s.replace name v = .ok (old, s') ↔
    s.get name = .ok old ∧ old.kind = v.kind ∧ s' = s.put name v := by
  constructor
  · intro h
    cases hget : s.get name with
    | error e =>
      rw [replace_of_get_eq_error hget] at h
      cases h
    | ok u =>
      by_cases hkind : u.kind = v.kind
      · rw [replace_eq_put hget hkind] at h
        cases h
        exact ⟨rfl, hkind, rfl⟩
      · rw [replace_of_kind_ne hget hkind] at h
        cases h
  · rintro ⟨hget, hkind, rfl⟩
    exact replace_eq_put hget hkind

/-! ### Replacing in place -/

/-- The replacement in a struct that is held: the value in the field is looked at, then it is
written over. -/
def exchange (name : String) (v : Value) : ExceptT Error (StateM Struct) Value := do
  let s ← getThe Struct
  let old ← MonadExcept.ofExcept (s.get name)
  if old.kind ≠ v.kind then
    throw (.schemaEncoding (.replacement old.kind.name s.schema.name name v.kind.name))
  modifyThe Struct (·.put name v)
  return old

/-- The struct that is held is the one that is looked at. -/
theorem run_exchange (s : Struct) (name : String) (v : Value) : (exchange name v).run s =
    (MonadExcept.ofExcept (s.get name) >>= fun old => do
      if old.kind ≠ v.kind then
        throw (.schemaEncoding (.replacement old.kind.name s.schema.name name v.kind.name))
      modifyThe Struct (·.put name v)
      return old : ExceptT Error (StateM Struct) Value).run s := rfl

theorem exchange_of_replace (h : s.replace name v = .ok (old, s')) :
    (exchange name v).run s = (.ok old, s') := by
  obtain ⟨hget, hkind, rfl⟩ := replace_eq_ok.mp h
  rw [run_exchange, hget]
  show (ite (old.kind ≠ v.kind) _ _ : ExceptT Error (StateM Struct) Value).run s = _
  rw [if_neg (not_not_intro hkind)]
  rfl

theorem exchange_of_refusal (h : s.replace name v = .error e) :
    (exchange name v).run s = (.error e, s) := by
  cases hget : s.get name with
  | error e' =>
    rw [replace_of_get_eq_error hget] at h
    cases h
    rw [run_exchange, hget]
    rfl
  | ok old =>
    by_cases hkind : old.kind = v.kind
    · rw [replace_eq_put hget hkind] at h
      cases h
    · rw [replace_of_kind_ne hget hkind] at h
      cases h
      rw [run_exchange, hget]
      show (ite (old.kind ≠ v.kind) _ _ : ExceptT Error (StateM Struct) Value).run s = _
      rw [if_pos hkind]
      rfl

end Replace

end Struct

end KafkaWire
