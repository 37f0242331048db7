import KafkaWire.Proofs.Wire.Exact
import KafkaWire.Wire.Format

/-!
# Writing to a sink

An output describes what a writer does and leaves the sink open. Here it is carried out: the sink
takes the chunks in order, and then the run ends well or with an error. The sink is a state that
outlives errors, so whatever was written before one stays.

Carrying out is compatible with the ways in which outputs are put together. A program that writes
piece by piece, and stops at the first piece that fails, does to a sink what the output of all
pieces does to it. That is why two passes over the same value cannot part ways: **one description
serves both**, and neither pass can look at its sink.

Two more things about errors do not follow from this. A single write fails before it touches the
sink, if it fails at all; and an error is always about the value that is written, never about the
passes over it.

## Main definitions

* `Encoder` — a program that writes to a sink, `Output.perform`
* `Output.AllOrNothing` — outputs that fail before anything was written
* `Error.BlamesValue`, `Output.BlamesValue` — errors about the value that is written

## Main results

* `Output.perform_append`, `Output.perform_forEach` — performing the parts performs the whole
* `Primitive.allOrNothing_write` — single values are written as a whole or not at all
* `Format.blamesValue_write` — what stops a value of any format
-/

namespace KafkaWire

variable {σ α β : Type}

/-! ### Programs that write -/

/-- A program that writes to a sink and may stop with an error, which leaves the sink as it was
when the error occurred. -/
abbrev Encoder (σ : Type) := ExceptT Error (StateM σ)

namespace Encoder

/-- How the program ends, and the sink it leaves behind. -/
def outcome (x : Encoder σ α) (sink : σ) : Except Error α × σ := x.run.run sink

theorem ext {x y : Encoder σ α} (h : ∀ sink, x.outcome sink = y.outcome sink) : x = y :=
  funext h

theorem outcome_bind (x : Encoder σ α) (f : α → Encoder σ β) (sink : σ) :
    (x >>= f).outcome sink =
      match x.outcome sink with
      | (.ok a, after) => (f a).outcome after
      | (.error e, after) => (.error e, after) := by
  show ExceptT.bindCont f (x.outcome sink).1 (x.outcome sink).2 = _
  rcases x.outcome sink with ⟨result | result, after⟩ <;> rfl

end Encoder

/-! ### Performing an output -/

namespace Output

section Perform

variable [Sink σ]

/-- Hands the chunks to the sink, and then stops if the output does. -/
def perform (o : Output) : Encoder σ Unit := do
  modify fun sink => o.feed sink
  MonadExcept.ofExcept o.result

theorem outcome_perform (o : Output) (sink : σ) :
    o.perform.outcome sink = (o.result, o.feed sink) := by
  unfold perform
  cases o.result with
  | ok => rfl
  | error e => rfl

theorem perform_empty : (empty.perform : Encoder σ Unit) = pure () := rfl

/-- **One output after another** is performed by performing one after the other. -/
theorem perform_append (a b : Output) :
    ((a ++ b).perform : Encoder σ Unit) = (do a.perform; b.perform) := by
  refine Encoder.ext fun sink => ?_
  rw [Encoder.outcome_bind, outcome_perform, outcome_perform]
  cases hfault : a.fault with
  | some e =>
    -- the first output ends both, and the second is never reached
    rw [append_of_fault hfault, result, hfault]
  | none =>
    have hfeed : (a ++ b).feed sink = b.feed (a.feed sink) := by
      rw [append_of_ok hfault]
      exact List.foldl_append
    have hresult : (a ++ b).result = b.result := by
      rw [append_of_ok hfault]
      rfl
    have hok : a.result = .ok () := by rw [result, hfault]
    simp only [hok, hfeed, hresult, outcome_perform]

/-- **Elements in a row** are performed one by one, up to the first that fails. -/
theorem perform_forEach (write : α → Output) (xs : List α) :
    ((forEach write xs).perform : Encoder σ Unit) = xs.forM fun x => (write x).perform := by
  induction xs with
  | nil => exact perform_empty
  | cons x xs ih =>
    rw [forEach_cons, perform_append, ih]
    rfl

end Perform

/-! ### Results -/

theorem result_eq_ok {o : Output} : o.result = .ok () ↔ o.fault = none := by
  unfold result
  cases o.fault <;> simp

theorem result_eq_error {o : Output} {e : Error} : o.result = .error e ↔ o.fault = some e := by
  unfold result
  cases o.fault <;> simp

/-! ### Failing before anything is written -/

/-- If the output fails, nothing of it is written. -/
def AllOrNothing (o : Output) : Prop := ∀ e, o.fault = some e → o.chunks = []

theorem allOrNothing_of_ok {o : Output} (h : o.fault = none) : o.AllOrNothing := by
  intro e he
  rw [h] at he
  cases he

theorem AllOrNothing.append {a b : Output} (ha : a.AllOrNothing) (hb : b.fault = none) :
    (a ++ b).AllOrNothing := by
  intro e he
  rw [fault_append, hb, Option.or_none] at he
  rw [append_of_fault he]
  exact ha e he

theorem AllOrNothing.feed_eq [Sink σ] {o : Output} (h : o.AllOrNothing) {e : Error}
    (he : o.result = .error e) (sink : σ) : o.feed sink = sink := by
  rw [feed, h e (result_eq_error.mp he)]
  rfl

end Output

/-! ### Errors about the value -/

/-- The error is about the value that is written: something in it is too long, or it does not fit
its schema. -/
inductive Error.BlamesValue : Error → Prop
  | tooLong {what : Counted} {length : Nat} (limit_lt : what.writeLimit < length) :
    BlamesValue (.packetEncoding (.tooLong what length))
  | frameTooLong {length : Nat} (limit_le : 0x80000000 ≤ length) :
    BlamesValue (.packetEncoding (.frameTooLong length))
  | shape (fault : ShapeFault) : BlamesValue (.schemaEncoding fault)

/-- If the output fails, then because of the value that is written. -/
def Output.BlamesValue (o : Output) : Prop := ∀ e, o.fault = some e → e.BlamesValue

namespace Output.BlamesValue

theorem of_ok {o : Output} (h : o.fault = none) : o.BlamesValue := by
  intro e he
  rw [h] at he
  cases he

theorem fail {e : Error} (h : e.BlamesValue) : (Output.fail e).BlamesValue := by
  rintro _ ⟨rfl⟩
  exact h

theorem append {a b : Output} (ha : a.BlamesValue) (hb : b.BlamesValue) :
    (a ++ b).BlamesValue := by
  intro e he
  rw [fault_append, Option.or_eq_some_iff] at he
  rcases he with he | ⟨-, he⟩
  · exact ha e he
  · exact hb e he

theorem forEach {write : α → Output} {xs : List α} (h : ∀ x ∈ xs, (write x).BlamesValue) :
    (Output.forEach write xs).BlamesValue := by
  intro e he
  rw [fault_forEach] at he
  obtain ⟨x, hmem, hx⟩ := List.exists_of_findSome?_eq_some he
  exact h x hmem e hx

/-- The two passes of encoding are never blamed. -/
theorem encode_ne_passesDisagree {o : Output} (h : o.BlamesValue) (counted written : Nat) :
    o.encode ≠ .error (.packetEncoding (.passesDisagree counted written)) := by
  intro he
  cases h _ (encode_eq_error.mp he)

end Output.BlamesValue

/-! ### Lengths, primitive types and formats -/

theorem Length.allOrNothing_write (what : Counted) (form : Form) (length : Nat) :
    (write what form length).AllOrNothing := by
  unfold write
  by_cases hlimit : what.writeLimit < length
  · rw [if_pos hlimit]
    exact fun _ _ => rfl
  · rw [if_neg hlimit]
    cases form <;> cases what <;> exact Output.allOrNothing_of_ok rfl

theorem Length.blamesValue_write (what : Counted) (form : Form) (length : Nat) :
    (write what form length).BlamesValue := by
  intro e he
  rw [fault_write] at he
  split at he
  · cases he
    exact .tooLong ‹_›
  · cases he

namespace Primitive

/-- A single value is certain to be written, or it is bytes behind their length. -/
theorem write_certain_or_counted (p : Primitive) (x : p.Carrier) : (p.write x).fault = none ∨
    ∃ what form length bytes,
      p.write x = Length.write what form length ++ .chunk (.raw bytes) := by
  have hnullable {α : Type} {what : Counted} {form : Form} (size : α → Nat) (payload : α → Bytes)
      (a : Option α) :
      let write := writeNullable what form (fun a =>
        Length.write what form (size a) ++ .chunk (.raw (payload a))) a
      write.fault = none ∨ ∃ what form length bytes,
        write = Length.write what form length ++ .chunk (.raw bytes) := by
    cases a with
    | none => exact .inl (Length.fault_writeNull what form)
    | some a => exact .inr ⟨what, form, size a, payload a, rfl⟩
  cases p with
  | bool | int8 | int16 | int32 | int64 | uvarint | varint | uuid => exact .inl rfl
  | string form => exact .inr ⟨.text, form, x.utf8ByteSize, textBytes x, rfl⟩
  | nullableString form => exact hnullable String.utf8ByteSize textBytes x
  | bytes form => exact .inr ⟨.data, form, x.length, x, rfl⟩
  | nullableBytes form => exact hnullable List.length id x
  | messageSet => exact hnullable List.length id x
  | tagBuffer => exact .inl (TagBuffer.fault_write x)

/-- **A single value is written as a whole or not at all.** -/
theorem allOrNothing_write (p : Primitive) (x : p.Carrier) : (p.write x).AllOrNothing := by
  rcases p.write_certain_or_counted x with hcertain | ⟨what, form, length, bytes, hcounted⟩
  · exact Output.allOrNothing_of_ok hcertain
  · rw [hcounted]
    exact (Length.allOrNothing_write what form length).append rfl

theorem blamesValue_write (p : Primitive) (x : p.Carrier) : (p.write x).BlamesValue := by
  rcases p.write_certain_or_counted x with hcertain | ⟨what, form, length, bytes, hcounted⟩
  · exact .of_ok hcertain
  · rw [hcounted]
    exact (Length.blamesValue_write what form length).append (.of_ok rfl)

end Primitive

/-- **A value of any format is to blame itself** if it cannot be written. -/
theorem Format.blamesValue_write (f : Format α) (x : α) : (f.write x).BlamesValue := by
  induction f with
  | primitive p => exact p.blamesValue_write x
  | array form items ih =>
    exact (Length.blamesValue_write _ _ _).append (.forEach fun y _ => ih y)
  | nullableArray form items ih =>
    cases x with
    | none => exact .of_ok (Length.fault_writeNull .items form)
    | some xs => exact (Length.blamesValue_write _ _ _).append (.forEach fun y _ => ih y)
  | pair first second ihFirst ihSecond => exact (ihFirst x.1).append (ihSecond x.2)
  | onlyIf present part absent ih =>
    rw [write]
    split
    · exact ih x
    · exact .of_ok rfl
  | required part empty ih => exact ih (x.getD empty)
  | record make fields hfields hmake parts ih => exact ih (fields x)

end KafkaWire
