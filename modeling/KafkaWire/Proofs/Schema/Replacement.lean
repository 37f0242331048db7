import KafkaWire.Proofs.Schema.Fields

/-!
# Replacing the value of a field

A schema can be built exactly if its field names are distinct, and then a name and its position
determine each other. A struct over such a schema need not fit it: there may be too few values, or
too many, and of any kind. Replacing a value is careful about all of this and still an exchange, as
one would wish: **what comes out can be put back**, and whatever was there before is there again.

## Main results

* `Schema.build_eq_ok`, `Schema.build_eq_error` — when a schema is refused, and for which field
* `Schema.indexOf_eq_some` — names and positions
* `Struct.replace_replace` — putting back what came out
* `Schema.replacement_outcome` — all of this for the schemas that can be built
-/

namespace KafkaWire

/-! ### Distinct names -/

namespace Schema

variable {name n : String} {fields : List Field} {schema : Schema} {seen names : List String}

theorem firstRepeat_eq_none :
    firstRepeat seen names = none ↔ names.Nodup ∧ ∀ n ∈ names, n ∉ seen := by
  induction names generalizing seen with
  | nil => simp [firstRepeat]
  | cons m names ih =>
    rw [firstRepeat]
    by_cases hm : m ∈ seen
    · simp [hm]
    · rw [if_neg hm, ih, List.nodup_cons, List.forall_mem_cons]
      constructor
      · rintro ⟨hnodup, hfresh⟩
        refine ⟨⟨fun hmem => hfresh m hmem List.mem_cons_self, hnodup⟩, hm, fun n hn hseen => ?_⟩
        exact hfresh n hn (List.mem_cons_of_mem m hseen)
      · rintro ⟨⟨hnotMem, hnodup⟩, -, hfresh⟩
        refine ⟨hnodup, fun n hn hseen => ?_⟩
        rcases List.mem_cons.mp hseen with rfl | hseen
        · exact hnotMem hn
        · exact hfresh n hn hseen

theorem firstRepeat_append (front back : List String) : firstRepeat seen (front ++ back) =
    (firstRepeat seen front).or (firstRepeat (front.reverse ++ seen) back) := by
  induction front generalizing seen with
  | nil => rfl
  | cons m front ih =>
    rw [List.cons_append, firstRepeat, firstRepeat, ih, List.reverse_cons, List.append_assoc]
    split <;> rfl

theorem exists_cut_of_firstRepeat (h : firstRepeat seen names = some n) : ∃ front back,
    names = front ++ n :: back ∧ firstRepeat seen front = none ∧ (n ∈ seen ∨ n ∈ front) := by
  induction names generalizing seen with
  | nil => cases h
  | cons m names ih =>
    rw [firstRepeat] at h
    split at h
    · rename_i hm
      cases h
      exact ⟨[], names, rfl, rfl, .inl hm⟩
    · rename_i hm
      obtain ⟨front, back, rfl, hfront, hn⟩ := ih h
      refine ⟨m :: front, back, rfl, by rw [firstRepeat, if_neg hm, hfront], ?_⟩
      rcases hn with hn | hn
      · rcases List.mem_cons.mp hn with rfl | hn
        · exact .inr List.mem_cons_self
        · exact .inl hn
      · exact .inr (List.mem_cons_of_mem m hn)

/-- **The first repetition** stands behind a front without one, and is found there. -/
theorem firstRepeat_nil_eq_some : firstRepeat [] names = some n ↔
    ∃ front back, names = front ++ n :: back ∧ firstRepeat [] front = none ∧ n ∈ front := by
  constructor
  · intro h
    obtain ⟨front, back, hcut, hfront, hn⟩ := exists_cut_of_firstRepeat h
    exact ⟨front, back, hcut, hfront, hn.resolve_left List.not_mem_nil⟩
  · rintro ⟨front, back, rfl, hfront, hn⟩
    have hseen : n ∈ front.reverse ++ [] := by simpa using hn
    rw [firstRepeat_append, hfront, firstRepeat, if_pos hseen]
    rfl

theorem firstRepeat_nil_eq_none : firstRepeat [] names = none ↔ names.Nodup := by
  simp [firstRepeat_eq_none]

/-- **A schema can be built** exactly if its field names are distinct. -/
theorem build_eq_ok : build? name fields = .ok schema ↔
    (fields.map (·.name)).Nodup ∧ schema = ⟨name, fields⟩ := by
  rw [build?, ← firstRepeat_nil_eq_none]
  cases firstRepeat [] (fields.map (·.name)) with
  | none => simp [eq_comm]
  | some n => simp

/-- **A schema is refused** for the first field whose name repeats an earlier one. -/
theorem build_eq_error {e : Error} : build? name fields = .error e ↔ ∃ front field back,
    fields = front ++ field :: back ∧ (front.map (·.name)).Nodup ∧
      field.name ∈ front.map (·.name) ∧
      e = .schemaEncoding (.duplicateField field.name name) := by
  have hrepeat : build? name fields = .error e ↔ ∃ n,
      firstRepeat [] (fields.map (·.name)) = some n ∧
        e = .schemaEncoding (.duplicateField n name) := by
    rw [build?]
    cases firstRepeat [] (fields.map (·.name)) <;> simp [eq_comm]
  rw [hrepeat]
  constructor
  · rintro ⟨n, hn, rfl⟩
    obtain ⟨front, back, hcut, hfront, hmem⟩ := firstRepeat_nil_eq_some.mp hn
    obtain ⟨front, rest, rfl, rfl, hrest⟩ := List.map_eq_append_iff.mp hcut
    obtain ⟨field, back, rfl, rfl, -⟩ := List.map_eq_cons_iff.mp hrest
    exact ⟨front, field, back, rfl, firstRepeat_nil_eq_none.mp hfront, hmem, rfl⟩
  · rintro ⟨front, field, back, rfl, hfront, hmem, rfl⟩
    refine ⟨field.name, firstRepeat_nil_eq_some.mpr ?_, rfl⟩
    exact ⟨front.map (·.name), back.map (·.name), by rw [List.map_append, List.map_cons],
      firstRepeat_nil_eq_none.mpr hfront, hmem⟩

/-- **A name and its position determine each other** where names are distinct. -/
theorem indexOf_eq_some (distinct : (schema.fields.map (·.name)).Nodup) {i : Nat} :
    schema.indexOf? n = some i ↔ (schema.fields[i]?).map (·.name) = some n := by
  refine ⟨name_of_indexOf, fun h => ?_⟩
  cases hindex : schema.indexOf? n with
  | none =>
    obtain ⟨field, hfield, rfl⟩ := Option.map_eq_some_iff.mp h
    have hother := List.findIdx?_eq_none_iff.mp hindex field (List.mem_of_getElem? hfield)
    exact absurd rfl (beq_eq_false_iff_ne.mp hother)
  | some j =>
    have hj := name_of_indexOf hindex
    rw [← List.getElem?_map] at h hj
    have hlt : j < (schema.fields.map (·.name)).length := (List.getElem?_eq_some_iff.mp hj).1
    rw [(List.getElem?_inj hlt distinct).mp (hj.trans h.symm)]

end Schema

/-! ### Replacing a value -/

/-- **What comes out can be put back**, and the struct is as it was. -/
theorem Struct.replace_replace {s s' : Struct} {name : String} {v old : Value}
    (h : s.replace name v = .ok (old, s')) : s'.replace name old = .ok (v, s) := by
  obtain ⟨hget, hkind, rfl⟩ := replace_eq_ok.mp h
  refine replace_eq_ok.mpr ⟨get_put_self hget, hkind.symm, ?_⟩
  rw [put_put, put_self hget]

/-- **Schemas that can be built, and replacing values in structs over them.**

A schema can be built exactly if its field names are distinct, and is refused for the first field
that repeats an earlier name. In a schema that was built, names and positions determine each other.

Let there be a struct over it, with any values. A value is replaced exactly if its name is that of a
field, that field has a value, and both are of the same kind. Then the old value comes out and the
new one is found under the name; what is found under any other name stays the same, as do the number
of values and the schema, and putting the old value back gives back the struct. Otherwise there is
an error, and a struct that is held is left as it is. -/
theorem Schema.replacement_outcome (name : String) (fields : List Field) :
    ((∃ schema, build? name fields = .ok schema) ↔ (fields.map (·.name)).Nodup) ∧
    (∀ e, build? name fields = .error e ↔ ∃ front field back, fields = front ++ field :: back ∧
      (front.map (·.name)).Nodup ∧ field.name ∈ front.map (·.name) ∧
      e = .schemaEncoding (.duplicateField field.name name)) ∧
    ∀ schema, build? name fields = .ok schema →
      (schema.name = name ∧ schema.fields = fields) ∧
      (∀ n i, schema.indexOf? n = some i ↔ (fields[i]?).map (·.name) = some n) ∧
      ∀ s : Struct, s.schema = schema → ∀ n v,
        ((∃ old s', s.replace n v = .ok (old, s')) ↔ ∃ (i : Nat) (old : Value),
          (fields[i]?).map (·.name) = some n ∧ s.values[i]? = some old ∧ old.kind = v.kind) ∧
        (∀ old s', s.replace n v = .ok (old, s') →
          s.get n = .ok old ∧ s'.get n = .ok v ∧
          (∀ other, other ≠ n → s'.get other = s.get other) ∧
          s'.values.length = s.values.length ∧ s'.schema = schema ∧
          s'.replace n old = .ok (v, s) ∧ (Struct.exchange n v).run s = (.ok old, s')) ∧
        ∀ e, s.replace n v = .error e → (Struct.exchange n v).run s = (.error e, s) := by
  refine ⟨?_, fun e => build_eq_error, fun schema hschema => ?_⟩
  · constructor
    · rintro ⟨schema, h⟩
      exact (build_eq_ok.mp h).1
    · intro distinct
      exact ⟨_, build_eq_ok.mpr ⟨distinct, rfl⟩⟩
  · obtain ⟨distinct, rfl⟩ := build_eq_ok.mp hschema
    have positions (n : String) (i : Nat) : Schema.indexOf? ⟨name, fields⟩ n = some i ↔
        (fields[i]?).map (·.name) = some n := indexOf_eq_some distinct
    refine ⟨⟨rfl, rfl⟩, positions, fun s hs n v => ⟨?_, ?_, fun e => Struct.exchange_of_refusal⟩⟩
    · simp only [Struct.replace_eq_ok, Struct.get_eq_ok, hs, positions]
      constructor
      · rintro ⟨old, -, ⟨i, hname, hold⟩, hkind, -⟩
        exact ⟨i, old, hname, hold, hkind⟩
      · rintro ⟨i, old, hname, hold, hkind⟩
        exact ⟨old, _, ⟨i, hname, hold⟩, hkind, rfl⟩
    · intro old s' h
      obtain ⟨hget, -, hput⟩ := Struct.replace_eq_ok.mp h
      have hback := Struct.replace_replace h
      have hexchange := Struct.exchange_of_replace h
      subst hput
      exact ⟨hget, Struct.get_put_self hget, fun other => Struct.get_put_of_ne,
        Struct.length_values_put, Struct.put_schema.trans hs, hback, hexchange⟩

/-- A struct with two fields and one value: that one is replaced and put back, the other is
missing. -/
theorem Schema.replacement_outcome_missingValue :
    let fields : List Field := [⟨"a", .primitive .int16⟩, ⟨"b", .primitive (.string .classic)⟩]
    let s : Struct := ⟨⟨"T", fields⟩, [.int16 5]⟩
    build? "T" fields = .ok ⟨"T", fields⟩ ∧ indexOf? ⟨"T", fields⟩ "b" = some 1 ∧
      (∃ s', s.replace "a" (.int16 6) = .ok (.int16 5, s') ∧ s'.get "a" = .ok (.int16 6) ∧
        s'.get "b" = .error (.schemaDecoding (.missingValue "b")) ∧
        s'.replace "a" (.int16 5) = .ok (.int16 6, s)) ∧
      ∀ v, (Struct.exchange "b" v).run s = (.error (.schemaDecoding (.missingValue "b")), s) := by
  intro fields s
  have hschema : build? "T" fields = .ok ⟨"T", fields⟩ := rfl
  obtain ⟨-, -, built⟩ := replacement_outcome "T" fields
  obtain ⟨-, positions, replaced⟩ := built _ hschema
  refine ⟨hschema, (positions "b" 1).mpr rfl, ?_, fun v => ?_⟩
  · obtain ⟨old, s', h⟩ := (replaced s rfl "a" (.int16 6)).1.mpr ⟨0, .int16 5, rfl, rfl, rfl⟩
    obtain ⟨hget, hnew, hother, -, -, hback, -⟩ := (replaced s rfl "a" (.int16 6)).2.1 old s' h
    obtain rfl : Value.int16 5 = old := Except.ok.inj hget
    exact ⟨s', h, hnew, hother "b" (by decide), hback⟩
  · exact (replaced s rfl "b" v).2.2 _ rfl

end KafkaWire
