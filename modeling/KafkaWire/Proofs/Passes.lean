import KafkaWire.Proofs.Schema.Induction
import KafkaWire.Proofs.Wire.Passes
import KafkaWire.Request.Frame

/-!
# Counting and writing keep in step

Encoding goes over a value twice, first to count the bytes and then to write them, and relies on
both passes meeting the same chunks and the same errors. Here this is shown of whatever can be
written: of the single values, of arrays of anything, and of structs, request bodies and
requests, in any number, one after another, on a counter and on a buffer that are never reset.
Errors do not end such a session. The sinks stay as the failing step left them, possibly in the
middle of an array, and the next step goes on from there.

What carries the session is that the sinks are **in step**: the counter holds the number of bytes
in the buffer. A step preserves this whether it ends well or not, and its result does not depend
on the sink at all.

## Main definitions

* `Step` — something that is written in one go, `Step.run` on any sink, `Step.output`
* `Step.session` — steps one after another, whatever their results

## Main results

* `Step.run_eq_perform` — running a step performs its output
* `Step.blamesValue_output` — what stops a step
* `Step.counting_agrees_with_writing` — a session on a counter and the same session on a buffer
-/

namespace KafkaWire

variable {σ : Type}

/-! ### What stops structs and requests -/

theorem Field.blamesValue_write {field : Field} {v : Value}
    (h : (field.type.write field.name v).BlamesValue) : (field.write v).BlamesValue := by
  rw [write_eq]
  exact h

theorem Field.blamesValue_writeEach {fields : List Field}
    (hfield : ∀ field ∈ fields, ∀ v, (field.write v).BlamesValue) (values : List Value) :
    (writeEach fields values).BlamesValue := by
  induction fields generalizing values with
  | nil => exact .of_ok rfl
  | cons field fields ih =>
    cases values with
    | nil => exact .of_ok rfl
    | cons v values =>
      have hhead := hfield field List.mem_cons_self v
      have htail := ih (fun g hg => hfield g (List.mem_cons_of_mem field hg)) values
      rw [writeEach]
      exact hhead.append htail

theorem Schema.blamesValue_writeValues {schema : Schema}
    (hfield : ∀ field ∈ schema.fields, ∀ v, (field.write v).BlamesValue) (values : List Value) :
    (schema.writeValues values).BlamesValue := by
  obtain ⟨name, fields⟩ := schema
  rw [writeValues]
  split
  · exact Field.blamesValue_writeEach hfield values
  · exact .fail (.shape _)

/-- A value of the wrong kind stops its writer, and so does a struct of the wrong schema. -/
theorem FieldType.blamesValue_write (type : FieldType) (field : String) (v : Value) :
    (type.write field v).BlamesValue := by
  induction type generalizing field v with
  | primitive p =>
    rw [write]
    split
    · exact p.blamesValue_write _
    · exact .fail (.shape _)
  | array form items ih =>
    cases v with
    | primitive kind x => exact .fail (.shape _)
    | struct s => exact .fail (.shape _)
    | array vs =>
      cases vs with
      | none => exact .of_ok (Length.fault_writeNull .items form)
      | some vs => exact (Length.blamesValue_write _ _ _).append (.forEach fun v _ => ih field v)
  | struct schema ih =>
    cases v with
    | primitive kind x => exact .fail (.shape _)
    | array vs => exact .fail (.shape _)
    | struct s =>
      rw [write]
      split
      · exact Schema.blamesValue_writeValues
          (fun f hmem v => Field.blamesValue_write (ih f hmem f.name v)) s.values
      · exact .fail (.shape _)

theorem Struct.blamesValue_write (s : Struct) : s.write.BlamesValue :=
  Schema.blamesValue_writeValues
    (fun f _ v => Field.blamesValue_write (f.type.blamesValue_write f.name v)) s.values

theorem Body.blamesValue_write (body : Body) : body.write.BlamesValue :=
  body.format.blamesValue_write body.layout

theorem Request.blamesValue_writeAfterLength (r : Request) : r.writeAfterLength.BlamesValue := by
  have hclient := Primitive.blamesValue_write (.nullableString .classic) r.clientId
  unfold writeAfterLength
  refine (((Output.BlamesValue.of_ok rfl).append hclient).append ?_).append
    r.body.blamesValue_write
  cases r.headerTags with
  | some tags => exact .of_ok (TagBuffer.fault_write tags)
  | none => exact .of_ok rfl

theorem Request.blamesValue_write (r : Request) : r.write.BlamesValue := by
  have hrest := r.blamesValue_writeAfterLength
  simp only [write, Output.result]
  cases hfault : r.writeAfterLength.fault with
  | some e => exact .fail (hrest e hfault)
  | none =>
    simp only
    split
    · exact .fail (.frameTooLong ‹_›)
    · exact (Output.BlamesValue.of_ok rfl).append hrest

/-! ### Steps -/

/-- Something that is written in one go. -/
inductive Step : Type 1
  /-- A value of a primitive type, a tag buffer among them. -/
  | primitive (p : Primitive) (x : p.Carrier)
  /-- Bytes without a length. -/
  | raw (bytes : Bytes)
  /-- The length of an array, whose elements are written by other steps. -/
  | arrayLength (form : Form) (length : Nat)
  /-- An array, or null, whose elements are steps in turn. -/
  | array {α : Type} (form : Form) (items : Option (List α)) (element : α → Step)
  /-- A struct, whether or not it fits its schema. -/
  | struct (s : Struct)
  /-- A request body. -/
  | body (b : Body)
  /-- A request, of either header version. -/
  | request (r : Request)
  /-- One after the other, unless the first one fails; so elements may have parts. -/
  | andThen (first second : Step)
  /-- Nothing is written. -/
  | skip

namespace Step

/-- The step on a sink: elements are written one by one, and the first that fails ends it. -/
def run [Sink σ] : Step → Encoder σ Unit
  | .primitive p x => (p.write x).perform
  | .raw bytes => (Output.chunk (.raw bytes)).perform
  | .arrayLength form length => (Length.write .items form length).perform
  | .array form none _ => (Length.writeNull .items form).perform
  | .array form (some items) element => do
    (Length.write .items form items.length).perform
    items.forM fun item => (element item).run
  | .struct s => s.write.perform
  | .body b => b.write.perform
  | .request r => r.write.perform
  | .andThen first second => do
    first.run
    second.run
  | .skip => pure ()

/-- What the step writes, without a sink. -/
def output : Step → Output
  | .primitive p x => p.write x
  | .raw bytes => .chunk (.raw bytes)
  | .arrayLength form length => Length.write .items form length
  | .array form none _ => Length.writeNull .items form
  | .array form (some items) element =>
    Length.write .items form items.length ++ .forEach (fun item => (element item).output) items
  | .struct s => s.write
  | .body b => b.write
  | .request r => r.write
  | .andThen first second => first.output ++ second.output
  | .skip => .empty

/-- The bytes that the step writes into a buffer of its own. -/
def encode (step : Step) : Except Error Bytes := step.output.encode

/-- Steps that write a single value. -/
def IsSingle : Step → Prop
  | .primitive _ _ | .raw _ | .arrayLength _ _ => True
  | _ => False

/-- **Running a step performs its output**, on any sink. -/
theorem run_eq_perform [Sink σ] (step : Step) :
    (step.run : Encoder σ Unit) = step.output.perform := by
  induction step with
  | array form items element ih =>
    cases items with
    | none => rfl
    | some items =>
      -- each element is a step of its own, so what is run for it is what it performs
      have helement : (fun item => (element item).run : _ → Encoder σ Unit) =
          fun item => (element item).output.perform := funext ih
      rw [run, output, Output.perform_append, Output.perform_forEach, helement]
  | andThen first second ihFirst ihSecond =>
    rw [run, output, Output.perform_append, ihFirst, ihSecond]
  | primitive | raw | arrayLength | struct | body | request => rfl
  | skip => exact Output.perform_empty.symm

theorem outcome_run [Sink σ] (step : Step) (sink : σ) :
    step.run.outcome sink = (step.output.result, step.output.feed sink) := by
  rw [run_eq_perform, Output.outcome_perform]

/-- **If a step fails, the value is to blame.** -/
theorem blamesValue_output (step : Step) : step.output.BlamesValue := by
  induction step with
  | primitive p x => exact p.blamesValue_write x
  | raw bytes => exact .of_ok rfl
  | arrayLength form length => exact Length.blamesValue_write _ _ _
  | array form items element ih =>
    cases items with
    | none => exact .of_ok (Length.fault_writeNull .items form)
    | some items => exact (Length.blamesValue_write _ _ _).append (.forEach fun item _ => ih item)
  | struct s => exact s.blamesValue_write
  | body b => exact b.blamesValue_write
  | request r => exact r.blamesValue_write
  | andThen first second ihFirst ihSecond => exact ihFirst.append ihSecond
  | skip => exact .of_ok rfl

/-- A single value that fails leaves the sink as it was. -/
theorem IsSingle.allOrNothing_output {step : Step} (h : step.IsSingle) :
    step.output.AllOrNothing := by
  cases step with
  | primitive p x => exact p.allOrNothing_write x
  | raw bytes => exact Output.allOrNothing_of_ok rfl
  | arrayLength form length => exact Length.allOrNothing_write _ _ _
  | array | struct | body | request | andThen | skip => cases h

/-! ### Sessions -/

/-- One step after another, whatever their results: how each ended, and the sink after it. -/
def session [Sink σ] (sink : σ) : List Step → List (Except Error Unit × σ)
  | [] => []
  | step :: steps =>
    let ended := step.run.outcome sink
    ended :: session ended.2 steps

/-- A session on sinks that are in step: the same results, and the same lengths after each step. -/
theorem session_eq {counter : Counter} {buffer : Buffer}
    (h : buffer.bytes.size = counter.length) (steps : List Step) :
    (session counter steps).map (fun ended => (ended.1, ended.2.length)) =
      (session buffer steps).map (fun ended => (ended.1, ended.2.bytes.size)) := by
  induction steps generalizing counter buffer with
  | nil => rfl
  | cons step steps ih =>
    have hstep := Output.size_feed_eq_length_feed step.output h
    simp only [session, List.map_cons, outcome_run]
    rw [hstep, ih hstep]

theorem prefix_of_mem_session {buffer : Buffer} {steps : List Step}
    {ended : Except Error Unit × Buffer} (h : ended ∈ session buffer steps) :
    buffer.bytes.toList <+: ended.2.bytes.toList := by
  induction steps generalizing buffer with
  | nil => cases h
  | cons step steps ih =>
    have hstep : buffer.bytes.toList <+: (step.output.feed buffer).bytes.toList := by
      rw [Output.toList_feed_buffer]
      exact List.prefix_append _ _
    simp only [session, outcome_run, List.mem_cons] at h
    rcases h with rfl | h
    · exact hstep
    · exact hstep.trans (ih h)

/-- What is in the buffer stays there, whatever comes after it. -/
theorem pairwise_session (buffer : Buffer) (steps : List Step) :
    (session buffer steps).Pairwise fun ended later =>
      ended.2.bytes.toList <+: later.2.bytes.toList := by
  induction steps generalizing buffer with
  | nil => exact .nil
  | cons step steps ih =>
    exact List.pairwise_cons.mpr ⟨fun later h => prefix_of_mem_session h, ih _⟩

/-! ### Encoding in two passes -/

/-- What was counted to the end is encoded, in as many bytes. -/
theorem encode_of_counted {step : Step} {after : Counter}
    (h : step.run.outcome {} = (.ok (), after)) :
    ∃ bs, step.encode = .ok bs ∧ bs.length = after.length := by
  rw [outcome_run, Prod.mk.injEq] at h
  obtain ⟨hresult, rfl⟩ := h
  have hwrites : step.output.Writes step.output.bytes := ⟨Output.result_eq_ok.mp hresult, rfl⟩
  refine ⟨step.output.bytes, Output.encode_eq_ok.mpr hwrites, ?_⟩
  rw [Output.length_bytes, Output.length_feed_counter]
  exact (Nat.zero_add _).symm

/-- What was refused while counting is refused by encoding, for the same reason. -/
theorem encode_of_refused {step : Step} {after : Counter} {e : Error}
    (h : step.run.outcome {} = (.error e, after)) : step.encode = .error e := by
  rw [outcome_run, Prod.mk.injEq] at h
  exact Output.encode_eq_error.mpr (Output.result_eq_error.mp h.1)

/-- **Counting agrees with writing.** In a session of any steps, a counter and a buffer report the
same results and the same lengths after every step, those that failed included, and the buffer
only ever grows at its end. A single value that fails leaves any sink as it was. Encoding in two
passes therefore never finds them in disagreement, and yields as many bytes as were counted. -/
theorem counting_agrees_with_writing :
    (∀ steps : List Step,
      (session ({} : Counter) steps).map (fun ended => (ended.1, ended.2.length)) =
        (session ({} : Buffer) steps).map (fun ended => (ended.1, ended.2.bytes.size)) ∧
      (session ({} : Buffer) steps).Pairwise fun ended later =>
        ended.2.bytes.toList <+: later.2.bytes.toList) ∧
    (∀ (step : Step) (σ : Type) [Sink σ] (sink after : σ) (e : Error), step.IsSingle →
      step.run.outcome sink = (.error e, after) → after = sink) ∧
    ∀ step : Step,
      (∀ counted written,
        step.encode ≠ .error (.packetEncoding (.passesDisagree counted written))) ∧
      (∀ after : Counter, step.run.outcome {} = (.ok (), after) →
        ∃ bs, step.encode = .ok bs ∧ bs.length = after.length) ∧
      ∀ (after : Counter) (e : Error), step.run.outcome {} = (.error e, after) →
        step.encode = .error e := by
  have hstart : ({} : Buffer).bytes.size = ({} : Counter).length := rfl
  refine ⟨fun steps => ⟨session_eq hstart steps, pairwise_session {} steps⟩, ?_, fun step => ?_⟩
  · intro step σ _ sink after e hsingle hrun
    rw [outcome_run, Prod.mk.injEq] at hrun
    obtain ⟨hresult, rfl⟩ := hrun
    exact hsingle.allOrNothing_output.feed_eq hresult sink
  · exact ⟨step.blamesValue_output.encode_ne_passesDisagree, fun _ => encode_of_counted,
      fun _ _ => encode_of_refused⟩

/-- A single value that fails, on a buffer that is not empty, and one that is encoded. -/
theorem counting_agrees_with_writing_tooManyItems :
    let refused := Step.arrayLength .compact 0x80000000
    let counted := Step.array .compact (some [0, 300]) (.arrayLength .compact)
    (∃ after, refused.run.outcome (⟨#[7]⟩ : Buffer) =
        (.error (.packetEncoding (.tooLong .items 0x80000000)), after) ∧ after = ⟨#[7]⟩) ∧
      ∃ bs, counted.encode = .ok bs ∧ bs.length = 4 := by
  intro refused counted
  obtain ⟨-, hsingle, hencode⟩ := counting_agrees_with_writing
  refine ⟨⟨_, rfl, hsingle refused Buffer ⟨#[7]⟩ _ _ trivial rfl⟩, ?_⟩
  exact (hencode counted).2.1 ⟨4⟩ rfl

/-- The elements of an array before the one that fails stay written, and the session goes on. -/
example :
    let steps := [Step.array .compact (some [0, 300, 0x80000000]) (.arrayLength .compact),
      .primitive .bool true]
    (session ({} : Buffer) steps).map (fun ended => (ended.1, ended.2.bytes.toList)) =
      [(.error (.packetEncoding (.tooLong .items 0x80000000)), [4, 1, 0xad, 2]),
        (.ok (), [4, 1, 0xad, 2, 1])] := by
  rfl

end Step

end KafkaWire
