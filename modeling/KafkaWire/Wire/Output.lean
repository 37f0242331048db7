import KafkaWire.Wire.BigEndian
import KafkaWire.Wire.Varint

/-!
# Outputs and the sinks that take them

Writing a value is described before it is done: an `Output` lists the chunks to be written, in
order, and the error that ends them early if there is one. A sink takes the chunks. Encoding
feeds the same output to two sinks, first to a counter, which sizes the result, and then to a
buffer, which holds it; an error leaves in both what stood before it.

## Main definitions

* `Chunk` — one indivisible write, with its `Chunk.bytes` and its `Chunk.size`
* `Output` — chunks in order and what stopped them, composed by `++`
* `Sink`, `Counter`, `Buffer` — what takes chunks: a count of bytes, or the bytes
* `Output.encode` — the bytes of an output, or its error

## Main results

* `Chunk.length_bytes` — a chunk has as many bytes as its size says
* `Output.size_feed_eq_length_feed` — so a counter and a buffer keep in step
-/

namespace KafkaWire

/-- One indivisible write. -/
inductive Chunk
  | int8 (n : Int8)
  | int16 (n : Int16)
  | int32 (n : Int32)
  | int64 (n : Int64)
  | uvarint (n : UInt64)
  | raw (bytes : Bytes)
  deriving DecidableEq, Repr

namespace Chunk

/-- The bytes written. -/
def bytes : Chunk → Bytes
  | .int8 n => toBigEndian 1 n.toUInt8.toNat
  | .int16 n => toBigEndian 2 n.toUInt16.toNat
  | .int32 n => toBigEndian 4 n.toUInt32.toNat
  | .int64 n => toBigEndian 8 n.toUInt64.toNat
  | .uvarint n => Varint.bytes n
  | .raw bs => bs

/-- How many bytes are written, found without writing them. -/
def size : Chunk → Nat
  | .int8 _ => 1
  | .int16 _ => 2
  | .int32 _ => 4
  | .int64 _ => 8
  | .uvarint n => Varint.size n
  | .raw bs => bs.length

@[simp] theorem length_bytes (c : Chunk) : c.bytes.length = c.size := by
  cases c <;> simp [bytes, size]

end Chunk

/-! ### Outputs -/

/-- What writing a value does: the chunks it writes, and the error that stopped it if one did. -/
structure Output where
  chunks : List Chunk
  fault : Option Error
  deriving Repr

namespace Output

/-- Nothing is written. -/
def empty : Output := ⟨[], none⟩

/-- A single chunk is written. -/
def chunk (c : Chunk) : Output := ⟨[c], none⟩

/-- Nothing is written, and nothing after it. -/
def fail (e : Error) : Output := ⟨[], some e⟩

/-- One output after another. An error in the first is the end of both. -/
def append (a b : Output) : Output :=
  match a.fault with
  | some _ => a
  | none => ⟨a.chunks ++ b.chunks, b.fault⟩

instance : Append Output := ⟨append⟩

/-- The outputs of all elements in order, up to the first that fails. -/
def forEach {α : Type} (write : α → Output) (xs : List α) : Output :=
  xs.foldr (fun x rest => write x ++ rest) empty

/-- How the writing ended. -/
def result (o : Output) : Except Error Unit :=
  match o.fault with
  | some e => .error e
  | none => .ok ()

/-- All bytes written, including those before an error. -/
def bytes (o : Output) : Bytes := o.chunks.flatMap Chunk.bytes

/-- The number of bytes written, including those before an error. -/
def size (o : Output) : Nat := o.chunks.foldr (fun c n => c.size + n) 0

theorem append_of_fault {a : Output} {e : Error} (h : a.fault = some e) (b : Output) :
    a ++ b = a := by
  change append a b = a
  simp [append, h]

theorem append_of_ok {a : Output} (h : a.fault = none) (b : Output) :
    a ++ b = ⟨a.chunks ++ b.chunks, b.fault⟩ := by
  change append a b = _
  simp [append, h]

@[simp] theorem empty_append (o : Output) : empty ++ o = o := append_of_ok rfl o

@[simp] theorem fail_append (e : Error) (o : Output) : fail e ++ o = fail e :=
  append_of_fault rfl o

@[simp] theorem append_empty (o : Output) : o ++ empty = o := by
  cases h : o.fault with
  | some e => exact append_of_fault h _
  | none => rw [append_of_ok h]; cases o; simp_all [empty]

theorem append_assoc (a b c : Output) : a ++ b ++ c = a ++ (b ++ c) := by
  cases ha : a.fault with
  | some e => simp only [append_of_fault ha]
  | none =>
    rw [append_of_ok ha, append_of_ok ha]
    cases hb : b.fault with
    | some e =>
      rw [append_of_fault hb, append_of_fault rfl, hb]
    | none => rw [append_of_ok hb, append_of_ok rfl, List.append_assoc]

@[simp] theorem forEach_nil {α : Type} (write : α → Output) : forEach write [] = empty := rfl

@[simp] theorem forEach_cons {α : Type} (write : α → Output) (x : α) (xs : List α) :
    forEach write (x :: xs) = write x ++ forEach write xs := rfl

end Output

/-! ### Sinks -/

/-- Something that takes chunks one after another. -/
class Sink (σ : Type) where
  /-- The sink after one more chunk. -/
  accept : σ → Chunk → σ

/-- A sink that keeps only the number of bytes. -/
structure Counter where
  length : Nat := 0
  deriving DecidableEq, Repr

instance : Sink Counter where
  accept counter c := ⟨counter.length + c.size⟩

/-- A sink that keeps the bytes. -/
structure Buffer where
  bytes : Array UInt8 := #[]
  deriving DecidableEq, Repr

instance : Sink Buffer where
  accept buffer c := ⟨buffer.bytes ++ c.bytes⟩

namespace Output

/-- The sink after all chunks of an output. -/
def feed {σ : Type} [Sink σ] (sink : σ) (o : Output) : σ :=
  o.chunks.foldl Sink.accept sink

@[simp] theorem length_feed_counter (counter : Counter) (o : Output) :
    (o.feed counter).length = counter.length + o.size := by
  obtain ⟨chunks, fault⟩ := o
  simp only [feed, size]
  induction chunks generalizing counter with
  | nil => simp
  | cons c cs ih =>
    rw [List.foldl_cons, ih, List.foldr_cons, ← Nat.add_assoc]
    rfl

@[simp] theorem toList_feed_buffer (buffer : Buffer) (o : Output) :
    (o.feed buffer).bytes.toList = buffer.bytes.toList ++ o.bytes := by
  obtain ⟨chunks, fault⟩ := o
  simp only [feed, bytes]
  induction chunks generalizing buffer with
  | nil => simp
  | cons c cs ih =>
    rw [List.foldl_cons, ih, List.flatMap_cons, ← List.append_assoc]
    congr 1
    exact Array.toList_appendList

theorem length_bytes (o : Output) : o.bytes.length = o.size := by
  obtain ⟨chunks, fault⟩ := o
  simp only [bytes, size]
  induction chunks with
  | nil => rfl
  | cons c cs ih =>
    rw [List.flatMap_cons, List.length_append, Chunk.length_bytes, ih, List.foldr_cons]

/-- A counter and a buffer that are in step stay so. -/
theorem size_feed_eq_length_feed {counter : Counter} {buffer : Buffer} (o : Output)
    (h : buffer.bytes.size = counter.length) :
    (o.feed buffer).bytes.size = (o.feed counter).length := by
  rw [← Array.length_toList, toList_feed_buffer, List.length_append, Array.length_toList,
    length_feed_counter, length_bytes, h]

/-! ### Encoding -/

/-- Encoding in two passes: `first` is counted, then `second` is written, and both must agree on
the number of bytes. An error in either pass is the result. -/
def encodePasses (first second : Output) : Except Error Bytes := do
  let counter := first.feed ({} : Counter)
  first.result
  let buffer := second.feed ({} : Buffer)
  second.result
  if buffer.bytes.size ≠ counter.length then
    throw (.packetEncoding (.passesDisagree counter.length buffer.bytes.size))
  return buffer.bytes.toList

/-- The bytes of a value whose writing is described by `o`. -/
def encode (o : Output) : Except Error Bytes := encodePasses o o

end Output

end KafkaWire
