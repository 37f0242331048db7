import KafkaWire.Proofs.Schema.Conformance

/-!
# Classic schemas have one spelling

In a classic schema there are no varints: no compact lengths and no tag buffers. Every value of it
has a single spelling, so decoding loses nothing and a struct that was decoded is encoded to the
bytes it came from.

## Main definitions

* `Schema.IsClassic` — no type in the schema has a varint in its values

## Main results

* `FieldType.exact_read` — classic values are read from what they are written as
* `Schema.encode_decode` — a decoded struct is encoded to the bytes it came from
-/

namespace KafkaWire

/-- Whether the type itself, apart from the types in it, is free of varints. -/
def FieldType.isClassic : FieldType → Bool
  | .primitive p => p.isClassic
  | .array form _ => form = .classic
  | .struct _ => true

/-- No varint is in a value of the schema. -/
def Schema.IsClassic (schema : Schema) : Prop := ∀ type ∈ schema.types, type.isClassic = true

instance (schema : Schema) : Decidable schema.IsClassic :=
  inferInstanceAs (Decidable (∀ type ∈ schema.types, type.isClassic = true))

theorem Field.exact_read {field : Field}
    (h : field.type.read.Exact (field.type.write field.name)) : field.read.Exact field.write := by
  intro bs rest v hv
  rw [read_eq] at hv
  rw [write_eq]
  exact h hv

/-- Fields have one spelling in a row if each of them has. -/
theorem Field.exact_readEach {fields : List Field}
    (hfield : ∀ field ∈ fields, field.read.Exact field.write) :
    (readEach fields).Exact (writeEach fields) := by
  intro bs rest values h
  induction fields generalizing bs values with
  | nil =>
    cases h
    exact ⟨[], Output.writes_empty.mpr rfl, rfl⟩
  | cons field fields ih =>
    rw [readEach] at h
    obtain ⟨v, mid, hv, hread⟩ := Reader.bind_eq_ok.mp h
    obtain ⟨vs, hvs, rfl⟩ := Reader.bind_pure_eq_ok.mp hread
    obtain ⟨front, hfront, rfl⟩ := hfield field List.mem_cons_self hv
    obtain ⟨back, hback, rfl⟩ := ih (fun g hg => hfield g (List.mem_cons_of_mem field hg)) hvs
    exact ⟨front ++ back, hfront.append hback, (List.append_assoc _ _ _).symm⟩

theorem Schema.exact_read {schema : Schema}
    (hfield : ∀ field ∈ schema.fields, field.read.Exact field.write) :
    schema.read.Exact Struct.write := by
  intro bs rest s h
  have hconforms := (conforms_of_read h).2
  rw [read_eq] at h
  obtain ⟨values, hvalues, rfl⟩ := Reader.bind_pure_eq_ok.mp h
  obtain ⟨front, hfront, rfl⟩ := Field.exact_readEach hfield hvalues
  exact ⟨front, Struct.writes_iff.mpr ⟨hconforms.count, hfront⟩, rfl⟩

/-- **Classic values have one spelling**: they are read from what they are written as. -/
theorem FieldType.exact_read {type : FieldType} (classic : ∀ t ∈ type.types, t.isClassic = true)
    (field : String) : type.read.Exact (type.write field) := by
  intro bs rest v h
  induction type generalizing bs rest v field with
  | primitive p =>
    obtain ⟨x, hx, rfl⟩ := Reader.bind_pure_eq_ok.mp h
    obtain ⟨front, hfront, rfl⟩ := Primitive.exact_read (classic _ List.mem_cons_self) hx
    exact ⟨front, writes_primitive.mpr ⟨x, rfl, hfront⟩, rfl⟩
  | array form items ih =>
    obtain rfl : form = .classic := by
      simpa [isClassic] using classic (.array form items) List.mem_cons_self
    have hitems : items.read.Exact (items.write field) :=
      ih (fun t ht => classic t (List.mem_cons_of_mem _ ht)) field
    obtain ⟨length, mid, hlength, hread⟩ := Reader.bind_eq_ok.mp h
    cases length with
    | none =>
      cases hread
      obtain ⟨front, hfront, rfl⟩ := Length.exact_of_readNull hlength
      exact ⟨front, writes_array.mpr (.inl ⟨rfl, hfront⟩), rfl⟩
    | some n =>
      obtain ⟨vs, hvs, rfl⟩ := Reader.bind_pure_eq_ok.mp hread
      obtain rfl := Reader.length_of_count hvs
      obtain ⟨front, hfront, rfl⟩ := Length.exact_of_read hlength
      obtain ⟨back, hback, rfl⟩ := hitems.count vs.length hvs
      exact ⟨front ++ back, writes_array.mpr (.inr ⟨vs, rfl, front, back, hfront, hback, rfl⟩),
        (List.append_assoc _ _ _).symm⟩
  | struct schema ih =>
    have hfields : ∀ f ∈ schema.fields, f.read.Exact f.write := by
      intro f hmem
      refine Field.exact_read (ih f hmem (fun t ht => classic t ?_) f.name)
      exact List.mem_cons_of_mem _ (Schema.types_subset hmem ht)
    obtain ⟨s, hs, rfl⟩ := Reader.bind_pure_eq_ok.mp h
    obtain ⟨front, hfront, rfl⟩ := Schema.exact_read hfields hs
    exact ⟨front, writes_struct.mpr ⟨s, rfl, (Schema.conforms_of_read hs).1, hfront⟩, rfl⟩

/-- **Decoding a classic struct can be undone**: encoding it yields the same bytes. -/
theorem Schema.encode_decode {schema : Schema} (classic : schema.IsClassic) {bs : Bytes}
    {s : Struct} (h : schema.decode bs = .ok s) : schema.encode s = .ok bs := by
  have hfields : ∀ f ∈ schema.fields, f.read.Exact f.write := by
    intro f hmem
    exact Field.exact_read
      (FieldType.exact_read (fun t ht => classic t (types_subset hmem ht)) f.name)
  have hread := decode_eq_ok.mp h
  obtain ⟨front, hfront, hbs⟩ := exact_read hfields hread
  rw [List.append_nil] at hbs
  rw [hbs]
  exact encode_eq_ok.mpr ⟨(conforms_of_read hread).1, hfront⟩

end KafkaWire
