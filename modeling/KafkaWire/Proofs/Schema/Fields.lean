import KafkaWire.Proofs.Schema.Conformance

/-!
# Fields of a struct

Fields are found by name, but values are held by position. Changing a field that is there is
changing one position, which is what `Struct.put` says outright, so that the laws of changes are
laws of `Struct.put`. A field changed for another value of its kind still fits.

## Main definitions

* `Schema.typeOf?` — the type of the field with a name

## Main results

* `Struct.get_put_self`, `Struct.get_put_of_ne` — what is found after a change
* `Struct.put_self`, `Struct.put_put`, `Struct.put_comm` — changes one after another
* `Struct.Conforms.get_of_typeOf` — a fitting struct has a fitting value in each field
* `Struct.Conforms.put` — and keeps fitting when it is exchanged for a fitting one
-/

namespace KafkaWire

/-- The type of the field with the name. -/
def Schema.typeOf? (schema : Schema) (name : String) : Option FieldType := do
  let i ← schema.indexOf? name
  let field ← schema.fields[i]?
  return field.type

/-- What is found under a name has that name. -/
theorem Schema.name_of_indexOf {schema : Schema} {name : String} {i : Nat}
    (h : schema.indexOf? name = some i) : (schema.fields[i]?).map (·.name) = some name := by
  obtain ⟨hi, hname, -⟩ := List.findIdx?_eq_some_iff_getElem.mp h
  rw [List.getElem?_eq_getElem hi, Option.map_some, beq_iff_eq.mp hname]

/-- **Different names have different positions.** -/
theorem Schema.ne_of_indexOf {schema : Schema} {name other : String} {i j : Nat}
    (h : schema.indexOf? name = some i) (hother : schema.indexOf? other = some j)
    (hne : other ≠ name) : i ≠ j := by
  rintro rfl
  exact hne (Option.some.inj ((name_of_indexOf hother).symm.trans (name_of_indexOf h)))

theorem Schema.typeOf_eq_some {schema : Schema} {name : String} {type : FieldType}
    (h : schema.typeOf? name = some type) : ∃ i field, schema.indexOf? name = some i ∧
      schema.fields[i]? = some field ∧ field.type = type := by
  rw [Schema.typeOf?, Option.bind_eq_bind, Option.bind_eq_some_iff] at h
  obtain ⟨i, hindex, h⟩ := h
  rw [Option.bind_eq_bind, Option.bind_eq_some_iff] at h
  obtain ⟨field, hfield, hpure⟩ := h
  exact ⟨i, field, hindex, hfield, Option.some.inj hpure⟩

namespace Struct

variable {s : Struct} {name other : String} {v w old : Value}

/-! ### Looking up -/

theorem getText_of_get {text : String} (h : s.get name = .ok (.string text)) :
    s.getText name = .ok text := by
  rw [getText, h]
  rfl

theorem getInt32_of_get {n : Int32} (h : s.get name = .ok (.int32 n)) :
    s.getInt32 name = .ok n := by
  rw [getInt32, h]
  rfl

/-! ### Exchanging a value -/

theorem put_of_indexOf_none (h : s.schema.indexOf? name = none) : s.put name v = s := by
  rw [put, h]

@[simp] theorem put_schema : (s.put name v).schema = s.schema := by
  cases h : s.schema.indexOf? name with
  | none => rw [put_of_indexOf_none h]
  | some i => rw [put_of_indexOf h]

@[simp] theorem length_values_put : (s.put name v).values.length = s.values.length := by
  cases h : s.schema.indexOf? name with
  | none => rw [put_of_indexOf_none h]
  | some i => rw [put_of_indexOf h, List.length_set]

theorem put_self (h : s.get name = .ok v) : s.put name v = s := by
  obtain ⟨i, hindex, hv⟩ := get_eq_ok.mp h
  obtain ⟨hi, rfl⟩ := List.getElem?_eq_some_iff.mp hv
  rw [put_of_indexOf hindex, List.set_getElem_self]
  cases s
  rfl

theorem put_put : (s.put name v).put name w = s.put name w := by
  cases h : s.schema.indexOf? name with
  | none => simp only [put, h]
  | some i => simp only [put, h, List.set_set]

theorem get_put_self (h : s.get name = .ok old) : (s.put name v).get name = .ok v := by
  obtain ⟨i, hindex, hv⟩ := get_eq_ok.mp h
  obtain ⟨hi, -⟩ := List.getElem?_eq_some_iff.mp hv
  rw [put_of_indexOf hindex]
  exact get_eq_ok.mpr ⟨i, hindex, List.getElem?_set_self hi⟩

/-- **Fields do not disturb each other**: whatever is looked up under another name, or refused
there, stays the same. -/
theorem get_put_of_ne (hne : other ≠ name) : (s.put name v).get other = s.get other := by
  cases h : s.schema.indexOf? name with
  | none => rw [put_of_indexOf_none h]
  | some i =>
    rw [put_of_indexOf h]
    simp only [get, indexOf]
    cases hother : s.schema.indexOf? other with
    | none => rfl
    | some j =>
      have hij := Schema.ne_of_indexOf h hother hne
      simp only [bind, Except.bind, List.getElem?_set_ne hij]

theorem put_comm (hne : other ≠ name) :
    (s.put name v).put other w = (s.put other w).put name v := by
  cases h : s.schema.indexOf? name with
  | none =>
    have hother : (s.put other w).schema.indexOf? name = none := by rw [put_schema, h]
    rw [put_of_indexOf_none h, put_of_indexOf_none hother]
  | some i =>
    cases hother : s.schema.indexOf? other with
    | none => simp only [put, h, hother]
    | some j =>
      simp only [put, h, hother]
      rw [List.set_comm _ _ (Schema.ne_of_indexOf h hother hne)]

/-! ### Fitting -/

/-- A fitting struct has a value that fits in each field of its schema. -/
theorem Conforms.get_of_typeOf (h : s.Conforms) {type : FieldType}
    (htype : s.schema.typeOf? name = some type) : ∃ v, s.get name = .ok v ∧ type.Takes v := by
  obtain ⟨i, field, hindex, hfield, rfl⟩ := Schema.typeOf_eq_some htype
  obtain ⟨hi, -⟩ := List.getElem?_eq_some_iff.mp hfield
  have hlt : i < s.values.length := h.count ▸ hi
  have hv : s.values[i]? = some s.values[i] := List.getElem?_eq_getElem hlt
  exact ⟨_, get_eq_ok.mpr ⟨i, hindex, hv⟩, h.each i field _ hfield hv⟩

/-- **A value may be exchanged** for any other that fits the field. -/
theorem Conforms.put (h : s.Conforms) {type : FieldType}
    (htype : s.schema.typeOf? name = some type) (hv : type.Takes v) : (s.put name v).Conforms := by
  obtain ⟨i, field, hindex, hfield, rfl⟩ := Schema.typeOf_eq_some htype
  rw [put_of_indexOf hindex]
  refine ⟨h.count.trans (List.length_set).symm, fun j field' w hfield' hw => ?_⟩
  by_cases hij : i = j
  · subst hij
    have hi : i < s.values.length := by
      rw [← h.count]
      exact (List.getElem?_eq_some_iff.mp hfield).1
    rw [List.getElem?_set_self hi] at hw
    cases hw
    cases hfield.symm.trans hfield'
    exact hv
  · rw [List.getElem?_set_ne hij] at hw
    exact h.each j field' w hfield' hw

end Struct

end KafkaWire
