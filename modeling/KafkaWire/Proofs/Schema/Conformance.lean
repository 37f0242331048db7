import KafkaWire.Proofs.Schema.RoundTrip
import KafkaWire.Proofs.Wire.Exact

/-!
# Values that fit their type

A value that was read fits its type: it has the kind that the type takes, an array in it holds
elements that fit in turn, a struct has one fitting value for each field, and the limits of
reading are kept throughout. Fitting is what survives when a part of a value is exchanged for
another that fits, and it leaves **a single reason** why the value might not be written again: a
text that is too long. No text that was read is, but one that was put in its place may be.

## Main definitions

* `FieldType.Takes`, `Struct.Conforms` — values that fit a type, structs that fit their schema
* `Struct.texts` — the texts in a struct, at any depth

## Main results

* `Schema.conforms_of_read` — what was read fits
* `Struct.Conforms.fault_write` — what fits is written, up to the first text that is too long
* `Struct.Conforms.encode_iff` — and is encoded exactly if there is none
-/

namespace KafkaWire

/-- The value fits the type and keeps to the limits of reading. -/
inductive FieldType.Takes : FieldType → Value → Prop
  | primitive {p : Primitive} {x : p.Carrier} (readable : p.kind.Readable x) :
    Takes (.primitive p) (.primitive p.kind x)
  | null {form : Form} {items : FieldType} : Takes (.array form items) (.array none)
  | array {form : Form} {items : FieldType} {vs : List Value} (length_le : vs.length ≤ maxItems)
    (each : ∀ v ∈ vs, Takes items v) : Takes (.array form items) (.array (some vs))
  | struct {schema : Schema} {s : Struct} (schema_eq : s.schema = schema)
    (count : schema.fields.length = s.values.length)
    (each : ∀ (i : Nat) field v, schema.fields[i]? = some field → s.values[i]? = some v →
      Takes field.type v) : Takes (.struct schema) (.struct s)

/-- The struct has one fitting value for each field of its schema. -/
structure Struct.Conforms (s : Struct) : Prop where
  count : s.schema.fields.length = s.values.length
  each : ∀ (i : Nat) field v, s.schema.fields[i]? = some field → s.values[i]? = some v →
    field.type.Takes v

theorem FieldType.takes_struct {schema : Schema} {s : Struct} :
    (struct schema).Takes (.struct s) ↔ s.schema = schema ∧ s.Conforms := by
  constructor
  · rintro ⟨⟩
    rename_i hschema count each
    subst hschema
    exact ⟨rfl, count, each⟩
  · rintro ⟨rfl, h⟩
    exact .struct rfl h.count h.each

/-! ### What was read fits -/

theorem Field.forall_of_readEach {fields : List Field}
    (hfield : ∀ field ∈ fields, ∀ {bs rest v}, field.read bs = .ok (v, rest) →
      field.type.Takes v) {bs rest : Bytes} {values : List Value}
    (h : readEach fields bs = .ok (values, rest)) :
    fields.length = values.length ∧ ∀ (i : Nat) field v, fields[i]? = some field →
      values[i]? = some v → field.type.Takes v := by
  induction fields generalizing bs values with
  | nil =>
    cases h
    exact ⟨rfl, fun i field v hfield => by simp at hfield⟩
  | cons f fields ih =>
    rw [readEach] at h
    obtain ⟨w, mid, hw, h⟩ := Reader.bind_eq_ok.mp h
    obtain ⟨ws, mid', hws, hpure⟩ := Reader.bind_eq_ok.mp h
    cases hpure
    obtain ⟨hlength, hall⟩ := ih (fun g hg => hfield g (List.mem_cons_of_mem f hg)) hws
    refine ⟨congrArg Nat.succ hlength, fun i field v hf hv => ?_⟩
    cases i with
    | zero =>
      cases hf
      cases hv
      exact hfield f List.mem_cons_self hw
    | succ i => exact hall i field v hf hv

theorem Schema.conforms_of_fields {schema : Schema}
    (hfield : ∀ field ∈ schema.fields, ∀ {bs rest v}, field.read bs = .ok (v, rest) →
      field.type.Takes v) {bs rest : Bytes} {s : Struct} (h : schema.read bs = .ok (s, rest)) :
    s.schema = schema ∧ s.Conforms := by
  rw [read_eq] at h
  obtain ⟨values, mid, hvalues, hpure⟩ := Reader.bind_eq_ok.mp h
  cases hpure
  obtain ⟨hlength, hall⟩ := Field.forall_of_readEach hfield hvalues
  exact ⟨rfl, hlength, hall⟩

/-- **A value that was read fits its type.** -/
theorem FieldType.takes_of_read {type : FieldType} {bs rest : Bytes} {v : Value}
    (h : type.read bs = .ok (v, rest)) : type.Takes v := by
  induction type generalizing bs rest v with
  | primitive p =>
    obtain ⟨x, mid, hx, hpure⟩ := Reader.bind_eq_ok.mp h
    cases hpure
    exact .primitive (Primitive.readable_of_read hx)
  | array form items ih =>
    obtain ⟨length, mid, hlength, hitems⟩ := Reader.bind_eq_ok.mp h
    cases length with
    | none =>
      cases hitems
      exact .null
    | some n =>
      obtain ⟨vs, mid', hvs, hpure⟩ := Reader.bind_eq_ok.mp hitems
      cases hpure
      obtain rfl := Reader.length_of_count hvs
      exact .array (Length.readNumber_of_read hlength).2 (Reader.forall_of_count ih hvs)
  | struct schema ih =>
    obtain ⟨s, mid, hs, hpure⟩ := Reader.bind_eq_ok.mp h
    cases hpure
    refine takes_struct.mpr (Schema.conforms_of_fields (fun field hmem => ?_) hs)
    intro bs rest v hv
    rw [Field.read_eq] at hv
    exact ih field hmem hv

theorem Schema.conforms_of_read {schema : Schema} {bs rest : Bytes} {s : Struct}
    (h : schema.read bs = .ok (s, rest)) : s.schema = schema ∧ s.Conforms := by
  refine conforms_of_fields (fun field _ => ?_) h
  intro bs rest v hv
  rw [Field.read_eq] at hv
  exact FieldType.takes_of_read hv

/-! ### Limits -/

/-- What fits a type is within the limits under which it comes back. -/
theorem FieldType.Takes.withinLimits {type : FieldType} {v : Value} (h : type.Takes v) :
    v.WithinLimits := by
  induction h with
  | primitive readable =>
    intro w hw
    obtain rfl := List.mem_singleton.mp hw
    exact readable.withinLimits
  | null =>
    intro w hw
    obtain rfl := List.mem_singleton.mp hw
    exact fun _ hmem => nomatch hmem
  | array length_le each ih =>
    intro w hw
    rw [Value.contents, Value.contentsEach_eq, List.mem_cons, List.mem_flatMap] at hw
    rcases hw with rfl | ⟨v, hv, hw⟩
    · rintro _ ⟨rfl⟩
      exact length_le
    · exact ih v hv w hw
  | @struct schema s schema_eq count each ih =>
    intro w hw
    rw [Value.contents, Struct.contents_eq, List.mem_cons, List.mem_flatMap] at hw
    rcases hw with rfl | ⟨v, hv, hw⟩
    · trivial
    · obtain ⟨i, hi, hvi⟩ := List.mem_iff_getElem.mp hv
      have hfield : schema.fields[i]? = some schema.fields[i] := List.getElem?_eq_getElem _
      exact ih i _ v hfield (List.getElem?_eq_some_iff.mpr ⟨hi, hvi⟩) w hw

theorem Struct.Conforms.withinLimits {s : Struct} (h : s.Conforms) : s.WithinLimits :=
  Value.withinLimits_struct (FieldType.takes_struct.mpr ⟨rfl, h⟩).withinLimits

/-! ### Texts -/

/-- The text that a value is, if it is one. -/
def Value.text? : Value → Option String
  | .primitive kind x => kind.text? x
  | _ => none

/-- The texts in a value, at any depth, in the order in which they are written. -/
def Value.texts (v : Value) : List String := v.contents.filterMap text?

/-- The texts in a struct, at any depth, in the order in which they are written. -/
def Struct.texts (s : Struct) : List String := s.contents.filterMap Value.text?

theorem Value.texts_array (vs : List Value) :
    (Value.array (some vs)).texts = vs.flatMap texts := by
  rw [texts, contents, contentsEach_eq, List.filterMap_cons_none rfl, List.filterMap_flatMap]
  rfl

theorem Struct.texts_eq (s : Struct) : s.texts = s.values.flatMap Value.texts := by
  rw [texts, contents_eq, List.filterMap_flatMap]
  rfl

theorem Value.texts_struct (s : Struct) : (Value.struct s).texts = s.texts := by
  rw [texts, contents, List.filterMap_cons_none rfl, Struct.texts]

/-! ### What prevents writing -/

open Primitive (textFault)

theorem Field.fault_writeEach {fields : List Field} {values : List Value}
    (hlength : fields.length = values.length)
    (h : ∀ (i : Nat) field v, fields[i]? = some field → values[i]? = some v →
      (field.write v).fault = v.texts.findSome? textFault) :
    (writeEach fields values).fault = (values.flatMap Value.texts).findSome? textFault := by
  induction fields generalizing values with
  | nil =>
    obtain rfl := List.length_eq_zero_iff.mp hlength.symm
    rfl
  | cons field fields ih =>
    cases values with
    | nil => exact absurd hlength (by simp)
    | cons v values =>
      have hhead := h 0 field v rfl rfl
      have htail := ih (Nat.succ.inj hlength) fun i f w hf hw => h (i + 1) f w hf hw
      rw [writeEach, Output.fault_append, hhead, htail, List.flatMap_cons, List.findSome?_append]

theorem Struct.fault_write {s : Struct} (hlength : s.schema.fields.length = s.values.length)
    (h : ∀ (i : Nat) field v, s.schema.fields[i]? = some field → s.values[i]? = some v →
      (field.write v).fault = v.texts.findSome? textFault) :
    s.write.fault = s.texts.findSome? textFault := by
  rw [texts_eq]
  obtain ⟨⟨name, fields⟩, values⟩ := s
  rw [write, Schema.writeValues, if_pos hlength]
  exact Field.fault_writeEach hlength h

/-- **What fits its type is written, up to the first text that is too long.** -/
theorem FieldType.Takes.fault_write {type : FieldType} {v : Value} (h : type.Takes v)
    (field : String) : (type.write field v).fault = v.texts.findSome? textFault := by
  induction h generalizing field with
  | @primitive p x readable =>
    have hx : (Value.primitive p.kind x).as? p.kind = some x := Value.as?_eq_some.mpr rfl
    simp only [FieldType.write, hx]
    rw [Primitive.fault_write readable]
    cases htext : p.kind.text? x with
    | none => simp [Value.texts, Value.contents, Value.text?, htext]
    | some s => simp [Value.texts, Value.contents, Value.text?, htext]
  | @null form items => exact Length.fault_writeNull .items form
  | @array form items vs length_le each ih =>
    have hlimit : ¬ Counted.items.writeLimit < vs.length := by
      have hmax : maxItems ≤ Counted.items.writeLimit := by decide
      omega
    rw [FieldType.write, Output.fault_append, Length.fault_write, if_neg hlimit, Option.none_or,
      Value.texts_array]
    exact Output.fault_forEach_eq fun v hv => ih v hv field
  | @struct schema s schema_eq count each ih =>
    subst schema_eq
    have hwrite : FieldType.write field (.struct s.schema) (.struct s) = s.write := by
      simp only [FieldType.write, if_true, Struct.write]
    rw [hwrite, Value.texts_struct]
    refine Struct.fault_write count fun i f v hf hv => ?_
    rw [Field.write_eq]
    exact ih i f v hf hv f.name

theorem Struct.Conforms.fault_write {s : Struct} (h : s.Conforms) :
    s.write.fault = s.texts.findSome? textFault := by
  refine Struct.fault_write h.count fun i field v hf hv => ?_
  rw [Field.write_eq]
  exact (h.each i field v hf hv).fault_write field.name

/-- **A struct that fits its schema is encoded if all of its texts are short enough**, and only
then. -/
theorem Struct.Conforms.encode_iff {s : Struct} (h : s.Conforms) :
    (∃ out, s.schema.encode s = .ok out) ↔
      ∀ text ∈ s.texts, text.utf8ByteSize ≤ Counted.text.writeLimit := by
  have hfault := h.fault_write
  constructor
  · rintro ⟨out, hout⟩
    obtain ⟨-, hwrites⟩ := Schema.encode_eq_ok.mp hout
    rw [hwrites.fault] at hfault
    intro text hmem
    exact Primitive.textFault_eq_none.mp (List.findSome?_eq_none_iff.mp hfault.symm text hmem)
  · intro hshort
    have hnone : s.write.fault = none := by
      rw [hfault, List.findSome?_eq_none_iff]
      intro text hmem
      exact Primitive.textFault_eq_none.mpr (hshort text hmem)
    exact ⟨_, Schema.encode_eq_ok.mpr ⟨rfl, hnone, rfl⟩⟩

/-- The error names the length of a text that is not. -/
theorem Struct.Conforms.long_of_encode_eq_error {s : Struct} {e : Error} (h : s.Conforms)
    (he : s.schema.encode s = .error e) : ∃ text ∈ s.texts,
      Counted.text.writeLimit < text.utf8ByteSize ∧
        e = .packetEncoding (.tooLong .text text.utf8ByteSize) := by
  rw [Schema.encode, if_pos rfl, Output.encode_eq_error, h.fault_write] at he
  obtain ⟨text, hmem, hfault⟩ := List.exists_of_findSome?_eq_some he
  exact ⟨text, hmem, Primitive.textFault_eq_some.mp hfault⟩

end KafkaWire
