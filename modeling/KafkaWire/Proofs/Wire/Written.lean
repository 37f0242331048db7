import KafkaWire.Wire.Output

/-!
# What an output leaves behind

An output is a description, so it can be taken apart without a sink: either an error stopped it,
or it wrote certain bytes. Every statement about writers is phrased in these two terms, and the
passes over a counter and a buffer never come up again.

## Main definitions

* `Output.Writes` — an output that ends well, with the bytes it wrote

## Main results

* `Output.encode_eq_ok`, `Output.encode_eq_error` — encoding tells exactly which of the two it was
* `Output.writes_append` — the bytes of two outputs in turn
* `Output.mul_length_le_of_writes_forEach` — how many bytes there are at least, given how many
  each element takes
-/

namespace KafkaWire

namespace Output

variable {α : Type}

/-- The output ends well, having written exactly `bs`. -/
structure Writes (o : Output) (bs : Bytes) : Prop where
  /-- Nothing stopped it. -/
  fault : o.fault = none
  /-- These are all its bytes. -/
  bytes : o.bytes = bs

/-! ### Encoding -/

/-- Both passes see the same chunks, so they cannot disagree on the length. -/
theorem encode_eq (o : Output) :
    o.encode = match o.fault with
      | some e => .error e
      | none => .ok o.bytes := by
  have hstep : (o.feed ({} : Buffer)).bytes.size = (o.feed ({} : Counter)).length :=
    size_feed_eq_length_feed o rfl
  have hbytes := toList_feed_buffer {} o
  simp only [encode, encodePasses, result]
  cases o.fault with
  | some e => rfl
  | none => simp [hstep, hbytes, bind, Except.bind, pure, Except.pure]

theorem encode_eq_ok {o : Output} {bs : Bytes} : o.encode = .ok bs ↔ o.Writes bs := by
  rw [encode_eq]
  constructor
  · intro h
    cases hf : o.fault with
    | some e => simp [hf] at h
    | none => exact ⟨hf, by simpa [hf] using h⟩
  · intro h
    simp [h.fault, h.bytes]

theorem encode_eq_error {o : Output} {e : Error} : o.encode = .error e ↔ o.fault = some e := by
  rw [encode_eq]
  cases o.fault <;> simp

/-! ### Parts -/

@[simp] theorem fault_append (a b : Output) : (a ++ b).fault = a.fault.or b.fault := by
  cases h : a.fault with
  | some e => rw [append_of_fault h, h]; rfl
  | none => rw [append_of_ok h]; rfl

theorem bytes_append {a : Output} (h : a.fault = none) (b : Output) :
    (a ++ b).bytes = a.bytes ++ b.bytes := by
  rw [append_of_ok h]
  exact List.flatMap_append

@[simp] theorem writes_chunk {c : Chunk} {bs : Bytes} : (chunk c).Writes bs ↔ c.bytes = bs := by
  constructor
  · intro h
    simpa [Output.bytes, chunk] using h.bytes
  · intro h
    exact ⟨rfl, by simpa [Output.bytes, chunk] using h⟩

@[simp] theorem writes_empty {bs : Bytes} : empty.Writes bs ↔ bs = [] := by
  constructor
  · intro h
    exact h.bytes.symm
  · rintro rfl
    exact ⟨rfl, rfl⟩

@[simp] theorem not_writes_fail {e : Error} {bs : Bytes} : ¬ (fail e).Writes bs := by
  intro h
  cases h.fault

/-- **Two outputs in turn.** Both end well, and their bytes stand side by side. -/
theorem writes_append {a b : Output} {bs : Bytes} :
    (a ++ b).Writes bs ↔ ∃ front back, a.Writes front ∧ b.Writes back ∧ front ++ back = bs := by
  constructor
  · rintro ⟨hfault, hbytes⟩
    rw [fault_append, Option.or_eq_none_iff] at hfault
    refine ⟨a.bytes, b.bytes, ⟨hfault.1, rfl⟩, ⟨hfault.2, rfl⟩, ?_⟩
    rw [← bytes_append hfault.1, hbytes]
  · rintro ⟨front, back, ha, hb, rfl⟩
    refine ⟨by simp [ha.fault, hb.fault], ?_⟩
    rw [bytes_append ha.fault, ha.bytes, hb.bytes]

theorem Writes.append {a b : Output} {front back : Bytes} (ha : a.Writes front)
    (hb : b.Writes back) : (a ++ b).Writes (front ++ back) :=
  writes_append.mpr ⟨front, back, ha, hb, rfl⟩

theorem Writes.unique {o : Output} {bs bs' : Bytes} (h : o.Writes bs) (h' : o.Writes bs') :
    bs = bs' :=
  h.bytes.symm.trans h'.bytes

/-! ### Lists of elements -/

theorem fault_forEach (write : α → Output) (xs : List α) :
    (forEach write xs).fault = xs.findSome? fun x => (write x).fault := by
  induction xs with
  | nil => rfl
  | cons x xs ih =>
    rw [forEach_cons, fault_append, ih, List.findSome?_cons]
    cases (write x).fault <;> rfl

/-- If what stops the writing of an element is the first fault among its parts, then what stops the
writing of all elements is the first fault among the parts of all. -/
theorem fault_forEach_eq {β : Type} {write : α → Output} {parts : α → List β}
    {fault : β → Option Error} {xs : List α}
    (h : ∀ x ∈ xs, (write x).fault = (parts x).findSome? fault) :
    (forEach write xs).fault = (xs.flatMap parts).findSome? fault := by
  induction xs with
  | nil => rfl
  | cons x xs ih =>
    rw [forEach_cons, fault_append, h x List.mem_cons_self,
      ih fun y hy => h y (List.mem_cons_of_mem x hy), List.flatMap_cons, List.findSome?_append]

/-- Elements of at least `k` bytes each take at least `k` times as many bytes as there are. -/
theorem mul_length_le_of_writes_forEach {write : α → Output} {k : Nat} {xs : List α} {bs : Bytes}
    (hle : ∀ x ∈ xs, ∀ front, (write x).Writes front → k ≤ front.length)
    (h : (forEach write xs).Writes bs) : k * xs.length ≤ bs.length := by
  induction xs generalizing bs with
  | nil => exact Nat.zero_le _
  | cons x xs ih =>
    rw [forEach_cons, writes_append] at h
    obtain ⟨front, back, hx, hxs, rfl⟩ := h
    have hfront := hle x List.mem_cons_self front hx
    have hback := ih (fun y hy => hle y (List.mem_cons_of_mem x hy)) hxs
    rw [List.length_append, List.length_cons, Nat.mul_succ]
    omega

/-- Elements of which each leaves a trace take at least one byte each. -/
theorem length_le_of_writes_forEach {write : α → Output} {xs : List α} {bs : Bytes}
    (hne : ∀ x ∈ xs, ¬ (write x).Writes []) (h : (forEach write xs).Writes bs) :
    xs.length ≤ bs.length := by
  have hmul : 1 * xs.length ≤ bs.length := by
    refine mul_length_le_of_writes_forEach (fun x hmem front hx => ?_) h
    refine List.length_pos_iff.mpr ?_
    rintro rfl
    exact hne x hmem hx
  rwa [Nat.one_mul] at hmul

end Output

end KafkaWire
