import KafkaWire.Proofs.Request.RoundTrip
import KafkaWire.Proofs.Schema.Induction
import KafkaWire.Proofs.Wire.Extension

/-!
# Truncated and extended messages

Where a message ends is decided by its own bytes. A request body and a struct of any schema are
read by steady readers (`Reader.Steady`), so a message that was cut short is told from one that
is faulty, and one with something behind it from both: the first is short of data, the last has
bytes left over, and it is known how many.

Nothing is asked of the schema. Even one whose arrays have elements of no bytes, which does not
read all that it writes, behaves so.

## Main results

* `Schema.built_read`, `Body.built_reader` — how the readers of schemas and request bodies are built
* `Schema.steady_read`, `Body.steady_reader` — they take no notice of what follows
* `selfDelimiting_of_messages` — truncation and extension, for both
-/

namespace KafkaWire

/-! ### Schemas -/

theorem Field.built_readEach {fields : List Field} (h : ∀ field ∈ fields, field.read.Built) :
    (readEach fields).Built := by
  induction fields with
  | nil => exact .value []
  | cons field fields ih =>
    rw [readEach]
    refine (h field List.mem_cons_self).bind fun v => ?_
    exact (ih fun f hf => h f (List.mem_cons_of_mem field hf)).map (v :: ·)

/-- The reader of a struct is built from those of its fields. -/
theorem Schema.built_of_fields {schema : Schema}
    (h : ∀ field ∈ schema.fields, field.type.read.Built) : schema.read.Built := by
  rw [read_eq]
  refine (Field.built_readEach fun field hmem => ?_).map _
  rw [Field.read_eq]
  exact h field hmem

theorem FieldType.built_read (type : FieldType) : type.read.Built := by
  induction type with
  | primitive p => exact p.built_read.map _
  | array form items ih =>
    refine (Length.built_read .items form).bind fun length => ?_
    cases length with
    | none => exact .value (Value.array none)
    | some n => exact (ih.count n).map _
  | struct schema ih => exact (Schema.built_of_fields ih).map Value.struct

theorem Schema.built_read (schema : Schema) : schema.read.Built :=
  built_of_fields fun field _ => field.type.built_read

/-- **Structs of any schema are read steadily.** -/
theorem Schema.steady_read (schema : Schema) : schema.read.Steady := schema.built_read.steady

/-! ### Request bodies -/

theorem Body.built_reader (body : Body) : body.reader.Built :=
  body.format.built_read.map body.withLayout

/-- **Request bodies are read steadily**, in every version. -/
theorem Body.steady_reader (body : Body) : body.reader.Steady := body.built_reader.steady

theorem Body.decode_eq_whole (body : Body) : decode body.api.code body.version =
    (body.withLayout body.api.emptyLayout).reader.whole fun count =>
      .packetDecoding (.leftover count) := by
  funext bs
  rw [decode, empty_eq, ← Reader.all_eq_whole]
  rfl

/-! ### Truncation and extension -/

/-- **Messages end where their own bytes say.** Bytes added behind a request body of any version,
or behind a struct of any schema, change no outcome of reading it, except that of input that was
too short. A complete message that was truncated is therefore short of data, and one that was
extended has exactly the new bytes left over. -/
theorem selfDelimiting_of_messages :
    (∀ body : Body, body.reader.Steady ∧
      SelfDelimiting (Body.decode body.api.code body.version) fun count =>
        .packetDecoding (.leftover count)) ∧
    ∀ schema : Schema, schema.read.Steady ∧
      SelfDelimiting schema.decode fun count => .schemaDecoding (.leftover count schema.name) := by
  constructor
  · intro body
    refine ⟨body.steady_reader, ?_⟩
    rw [body.decode_eq_whole]
    exact (body.withLayout body.api.emptyLayout).steady_reader.selfDelimiting _
  · intro schema
    refine ⟨schema.steady_read, ?_⟩
    rw [schema.decode_eq_whole]
    exact schema.steady_read.selfDelimiting _

/-- A metadata request for one topic. -/
def Body.oneTopic : Body where
  api := .metadata
  version := 0
  layout := { topics := some [{ name := some "t" }] }
  supported := by decide

/-- Cut short before the name, and with two bytes behind it. -/
theorem selfDelimiting_of_messages_oneTopic :
    let front : Bytes := [0, 0, 0, 1, 0, 1]
    let back : Bytes := [0x74]
    Body.decode 3 0 (front ++ back) = .ok Body.oneTopic.normal ∧
      Body.decode 3 0 front = .error .insufficientData ∧
      Body.decode 3 0 (front ++ back ++ [9, 9]) = .error (.packetDecoding (.leftover 2)) := by
  intro front back
  have encoded : Body.oneTopic.encode = .ok (front ++ back) := rfl
  have limits : Body.oneTopic.WithinLimits := by decide
  have decoded := Body.decode_encode encoded limits
  have hself := (selfDelimiting_of_messages.1 Body.oneTopic).2
  exact ⟨decoded, hself.truncated decoded (by decide),
    hself.extended decoded (List.cons_ne_nil 9 [9])⟩

end KafkaWire
