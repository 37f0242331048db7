import KafkaWire.Proofs.Request.RoundTrip
import KafkaWire.Proofs.Response.Schemas
import KafkaWire.Proofs.Schema.Conformance
import KafkaWire.Proofs.Wire.Entries

/-!
# Messages take no more room than they arrive in

What is read from some bytes holds no more than they do: **the arrays and tag buffers in a message
have, all together, at most as many entries as reading it took bytes**, and none of them has more
than `maxItems`. So neither many announcements in one message nor announcements within each other
make it larger in memory than on the wire, by more than a constant factor.

For request bodies this holds in every version. Of a schema it is asked, as in the round trip, that
elements of arrays cannot be written as nothing, since those would be read for nothing, too. The
schemas of all responses that are rewritten are of this kind.

## Main definitions

* `Body.lengths`, `Struct.lengths` — how many entries the arrays and tag buffers in a message have

## Main results

* `Body.frugal_reader`, `Schema.frugal_read` — reading takes a byte for each entry
* `noAmplification_of_messages` — the bound for both, spelled out
-/

namespace KafkaWire

/-! ### Request bodies -/

/-- What a version lacks is read as something without entries. -/
theorem Api.isBare_format (api : Api) (version : Int16) : (api.format version).isBare = true := by
  cases api with
  | metadata =>
    have htopic : (Metadata.Topic.format version).isBare = true := by
      by_cases h : 10 ≤ version
      · simp only [Metadata.Topic.format, if_pos h]
        rfl
      · simp only [Metadata.Topic.format, if_neg h]
        rfl
    by_cases h : version = 0
    · simp only [format, Metadata.Request.format, if_pos h]
      exact Bool.and_eq_true_iff.mpr ⟨htopic, rfl⟩
    · simp only [format, Metadata.Request.format, if_neg h]
      exact Bool.and_eq_true_iff.mpr ⟨htopic, rfl⟩
  | offsetFetch =>
    by_cases h : 2 ≤ version
    · simp only [format, OffsetFetch.Request.format, if_pos h]
      rfl
    · simp only [format, OffsetFetch.Request.format, if_neg h]
      rfl
  | _ => rfl

namespace Body

/-- The lengths of the arrays and tag buffers in the contents, at any depth. -/
def lengths (body : Body) : List Nat := body.format.lengths body.layout

/-- **Reading a request body takes a byte for each entry**, in every version. -/
theorem frugal_reader (body : Body) : body.reader.Frugal 0 lengths := by
  intro bs rest body' h
  obtain ⟨layout, hlayout, rfl⟩ := Reader.bind_pure_eq_ok.mp h
  have hpaid := Format.frugal_read (body.api.countable body.version)
    (body.api.isBare_format body.version) hlayout
  exact hpaid.mono (Nat.zero_le _)

end Body

/-! ### Schemas -/

/-- The number of entries, if the value has any. -/
def Value.lengthsHere : Value → List Nat
  | .primitive kind x => kind.lengths x
  | .array (some items) => [items.length]
  | _ => []

/-- The lengths of the arrays and tag buffers in a value, at any depth. -/
def Value.lengths (v : Value) : List Nat := v.contents.flatMap lengthsHere

/-- The lengths of the arrays and tag buffers in a struct, at any depth. -/
def Struct.lengths (s : Struct) : List Nat := s.contents.flatMap Value.lengthsHere

theorem Value.lengths_array (vs : List Value) :
    (Value.array (some vs)).lengths = vs.length :: vs.flatMap lengths := by
  rw [lengths, contents, contentsEach_eq, List.flatMap_cons, List.flatMap_assoc]
  rfl

theorem Struct.lengths_eq (s : Struct) : s.lengths = s.values.flatMap Value.lengths := by
  rw [lengths, contents_eq, List.flatMap_assoc]
  rfl

theorem Value.lengths_struct (s : Struct) : (Value.struct s).lengths = s.lengths := rfl

/-- Fields take what each of them takes. -/
theorem Field.frugal_readEach {fields : List Field}
    (h : ∀ field ∈ fields, field.type.read.Frugal field.type.isSolid.toNat Value.lengths) :
    (readEach fields).Frugal (fields.any (·.type.isSolid)).toNat (List.flatMap Value.lengths) := by
  induction fields with
  | nil =>
    intro bs rest values hvalues
    cases hvalues
    exact .nil (Nat.le_of_eq (Nat.zero_add _))
  | cons field fields ih =>
    intro bs rest values hvalues
    rw [readEach] at hvalues
    obtain ⟨v, mid, hv, hvalues⟩ := Reader.bind_eq_ok.mp hvalues
    obtain ⟨vs, hvs, rfl⟩ := Reader.bind_pure_eq_ok.mp hvalues
    rw [read_eq] at hv
    have hfront := h field List.mem_cons_self hv
    have hback := ih (fun f hf => h f (List.mem_cons_of_mem field hf)) hvs
    rw [List.any_cons, List.flatMap_cons]
    exact (hfront.append hback).mono (toNat_or_le _ _)

theorem Schema.frugal_of_fields {schema : Schema}
    (h : ∀ field ∈ schema.fields, field.type.read.Frugal field.type.isSolid.toNat Value.lengths) :
    schema.read.Frugal schema.isSolid.toNat Struct.lengths := by
  intro bs rest s hs
  rw [read_eq] at hs
  obtain ⟨values, hvalues, rfl⟩ := Reader.bind_pure_eq_ok.mp hs
  obtain ⟨name, fields⟩ := schema
  rw [Struct.lengths_eq, isSolid, Field.anySolid_eq]
  exact Field.frugal_readEach h hvalues

/-- **Reading a value takes a byte for each entry**, and one more if its type is solid. -/
theorem FieldType.frugal_read {type : FieldType}
    (htrace : ∀ form items, .array form items ∈ type.types → items.LeavesTrace) :
    type.read.Frugal type.isSolid.toNat Value.lengths := by
  induction type with
  | primitive p =>
    intro bs rest v h
    obtain ⟨x, hx, rfl⟩ := Reader.bind_pure_eq_ok.mp h
    have hlengths : (Value.primitive p.kind x).lengths = p.kind.lengths x := List.append_nil _
    rw [hlengths]
    exact p.frugal_read hx
  | array form items ih =>
    intro bs rest v h
    have hitems := ih fun f i hi => htrace f i (List.mem_cons_of_mem _ hi)
    rw [leavesTrace_iff.mp (htrace form items List.mem_cons_self)] at hitems
    obtain ⟨length, mid, hlength, h⟩ := Reader.bind_eq_ok.mp h
    cases length with
    | none =>
      cases h
      exact .nil (Length.takes_read .items form hlength)
    | some n =>
      obtain ⟨vs, hvs, rfl⟩ := Reader.bind_pure_eq_ok.mp h
      rw [Value.lengths_array]
      exact hitems.items hlength hvs
  | struct schema ih =>
    intro bs rest v h
    obtain ⟨s, hs, rfl⟩ := Reader.bind_pure_eq_ok.mp h
    rw [Value.lengths_struct]
    refine Schema.frugal_of_fields (fun field hmem => ih field hmem fun f i hi => ?_) hs
    exact htrace f i (List.mem_cons_of_mem _ (Schema.types_subset hmem hi))

/-- **Reading a struct takes a byte for each entry**, if no element of an array vanishes. -/
theorem Schema.frugal_read {schema : Schema} (countable : schema.Countable) :
    schema.read.Frugal schema.isSolid.toNat Struct.lengths :=
  frugal_of_fields fun _ hmem =>
    FieldType.frugal_read fun f i hi => countable f i (types_subset hmem hi)

/-! ### Both -/

/-- **Messages are not amplified.** Whatever request body, and whatever struct of a schema in which
no element of an array vanishes, is read from some bytes: none of its arrays and tag buffers has
too many entries, and together they have no more than there were bytes taken. The schemas of
responses are of this kind. -/
theorem noAmplification_of_messages :
    (∀ (body body' : Body) bs rest, body.reader bs = .ok (body', rest) →
      (∀ n ∈ body'.lengths, n ≤ maxItems) ∧ total body'.lengths + rest.length ≤ bs.length) ∧
    (∀ schema : Schema, schema.Countable → ∀ s bs rest, schema.read bs = .ok (s, rest) →
      (∀ n ∈ s.lengths, n ≤ maxItems) ∧ total s.lengths + rest.length ≤ bs.length) ∧
    ∀ r : Redirector, r.schema.Countable := by
  refine ⟨fun body body' bs rest h => ?_, fun schema countable s bs rest h => ?_,
    Redirector.countable⟩
  · obtain ⟨hlimit, hle⟩ := body.frugal_reader h
    exact ⟨hlimit, by omega⟩
  · obtain ⟨hlimit, hle⟩ := Schema.frugal_read countable h
    exact ⟨hlimit, by omega⟩

/-- A request for new partitions, to be read into. -/
def Body.emptyGrowth : Body where
  api := .createPartitions
  version := 2
  layout := {}
  supported := by decide

/-- One topic with two assignments, one of which has a tagged field, and three notes. -/
theorem noAmplification_of_messages_emptyGrowth :
    let bs : Bytes := [2, 2, 116, 0, 0, 0, 2, 3, 2, 0, 0, 0, 1, 0, 2, 0, 0, 0, 2, 1, 5, 1, 9, 0, 0,
      0, 0, 0, 0, 0]
    let bs' : Bytes := [4, 255, 255, 0, 0, 0, 0, 0, 0, 255, 255, 255, 255, 0, 1, 97, 0, 0, 0, 2, 1,
      2, 98, 2, 1, 0, 4, 1, 9]
    (∃ body, Body.emptyGrowth.reader (bs ++ [9]) = .ok (body, [9]) ∧
      body.lengths = [1, 2, 1, 0, 1, 1, 0, 0] ∧ total body.lengths + 1 ≤ bs.length + 1) ∧
    Schema.notesSchema.Countable ∧ Schema.notesSchema.read bs' = .ok (Schema.notes, []) ∧
      Schema.notes.lengths = [3, 0, 2, 2] ∧ total Schema.notes.lengths ≤ bs'.length := by
  intro bs bs'
  have countable : Schema.notesSchema.Countable := by decide
  have hread' : Schema.notesSchema.read bs' = .ok (Schema.notes, []) := rfl
  refine ⟨⟨_, rfl, rfl, ?_⟩, countable, hread', rfl, ?_⟩
  · exact (noAmplification_of_messages.1 Body.emptyGrowth _ (bs ++ [9]) [9] rfl).2
  · exact (noAmplification_of_messages.2.1 Schema.notesSchema countable _ bs' [] hread').2

end KafkaWire
