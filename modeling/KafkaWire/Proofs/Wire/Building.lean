import KafkaWire.Proofs.Wire.Reading
import KafkaWire.Wire.Format

/-!
# How readers are built

All readers of the codec are built in the same way. Bytes are taken off the front, or found to be
too few; what they say is computed with, or refused as malformed; and one reader follows another.
Whatever can be said of a reader without knowing what it reads is said of these few steps, and
holds of the readers of all types by one induction.

One such thing is how a reader fails: **only ever in a way that blames the bytes**, and those that
it was given rather than the frame around them, of which it knows nothing. Another is that it takes
no notice of what follows the value that it reads (`Reader.Steady`).

## Main definitions

* `Error.blamesContents` — the errors that blame the bytes that were read
* `Reader.Built` — readers that are built from these steps

## Main results

* `Reader.Built.blamesContents`, `Reader.Built.isDecoding` — how a built reader fails
* `Reader.Built.ite`, `Reader.Built.count` — other ways of building, reduced to the steps
* `Primitive.built_read`, `Format.built_read` — all primitive types and all formats
-/

namespace KafkaWire

namespace Error

/-- Whether the error says that the bytes read are malformed or incomplete, rather than that the
frame around them is of another length than it declares. -/
def blamesContents : Error → Bool
  | .packetDecoding (.frameLength _ _) => false
  | e => e.isDecoding

theorem isDecoding_of_blamesContents {e : Error} (h : e.blamesContents = true) :
    e.isDecoding = true := by
  unfold blamesContents at h
  split at h
  · cases h
  · exact h

end Error

namespace Reader

variable {α β : Type}

/-- Readers that demand and take bytes, compute with them, refuse them as malformed, and follow one
another. -/
inductive Built : {α : Type} → Reader α → Prop
  | value {α : Type} (a : α) : Built (pure a : Reader α)
  | refusal {α : Type} {e : Error} (malformed : e.blamesContents = true) :
    Built (throw e : Reader α)
  | demand (n : Nat) : Built (require n)
  | bytes (n : Nat) : Built (takeExactly n)
  | bind {α β : Type} {r : Reader α} {f : α → Reader β} (first : Built r)
    (next : ∀ a, Built (f a)) : Built (r >>= f)

/-- **Whatever a built reader refuses, it blames the bytes it was given.** -/
theorem Built.blamesContents {r : Reader α} (h : r.Built) {bs : Bytes} {e : Error}
    (herror : r bs = .error e) : e.blamesContents = true := by
  induction h generalizing bs with
  | value a => cases herror
  | refusal malformed =>
    cases herror
    exact malformed
  | demand n =>
    simp only [require] at herror
    split at herror <;> cases herror
    rfl
  | bytes n =>
    simp only [takeExactly] at herror
    split at herror <;> cases herror
    rfl
  | bind _ _ first next =>
    rcases bind_eq_error.mp herror with hfirst | ⟨a, mid, -, hnext⟩
    · exact first hfirst
    · exact next a hnext

theorem Built.isDecoding {r : Reader α} (h : r.Built) {bs : Bytes} {e : Error}
    (herror : r bs = .error e) : e.isDecoding = true :=
  Error.isDecoding_of_blamesContents (h.blamesContents herror)

/-- So does refusing a buffer for what is left over of it. -/
theorem Built.isDecoding_whole {r : Reader α} (h : r.Built) {leftover : Nat → Error}
    (hleftover : ∀ n, (leftover n).isDecoding = true) {bs : Bytes} {e : Error}
    (herror : r.whole leftover bs = .error e) : e.isDecoding = true := by
  rcases whole_eq_error.mp herror with hread | ⟨_, rest, -, -, rfl⟩
  · exact h.isDecoding hread
  · exact hleftover rest.length

/-! ### Other ways of building -/

/-- A value computed from one that was read. -/
theorem Built.map {r : Reader α} (hr : r.Built) (f : α → β) :
    (r >>= fun a => pure (f a)).Built :=
  hr.bind fun a => .value (f a)

theorem Built.ite {c : Prop} [Decidable c] {r r' : Reader α} (hr : r.Built) (hr' : r'.Built) :
    (if c then r else r').Built := by
  split
  · exact hr
  · exact hr'

/-- A refusal under a condition, before anything else. -/
theorem Built.unless {c : Prop} [Decidable c] {e : Error} {next : Unit → Reader α}
    (malformed : e.blamesContents = true) (hnext : (next ()).Built) :
    (if c then throw e >>= next else next ()).Built :=
  .ite (.bind (.refusal malformed) fun _ => hnext) hnext

/-- A run of values as a reader that reads one of them first. -/
theorem count_succ_eq (n : Nat) (r : Reader α) :
    count (n + 1) r = r >>= fun a => count n r >>= fun as => pure (a :: as) := by
  funext bs
  rw [count_succ]
  cases hr : r bs with
  | error e => rw [bind_of_error hr]
  | ok p =>
    rw [bind_of_ok hr]
    cases hc : count n r p.2 with
    | error e =>
      rw [bind_of_error hc]
      simp only [hc]
    | ok q =>
      rw [bind_of_ok hc]
      simp only [hc]
      rfl

/-- A run of values that are read by a built reader. -/
theorem Built.count {r : Reader α} (hr : r.Built) (n : Nat) : (count n r).Built := by
  induction n with
  | zero => exact .value []
  | succ n ih =>
    rw [count_succ_eq]
    exact hr.bind fun a => ih.map (a :: ·)

/-! ### Bytes and integers -/

theorem built_take (n : Nat) : (take n).Built := (Built.bytes n).map _

/-- Integers of all widths are computed from bytes taken. -/
theorem built_fixed (width : Nat) (ofBits : Bytes → α) :
    (do return ofBits (← take width) : Reader α).Built :=
  (built_take width).map ofBits

theorem built_byte : byte.Built := built_fixed 1 _

theorem built_int32 : int32.Built := built_fixed 4 _

theorem built_int16 : int16.Built := built_fixed 2 _

theorem built_bool : bool.Built := by
  refine built_byte.bind fun b => ?_
  split
  · exact .value false
  · exact .value true
  · exact .refusal rfl

end Reader

/-! ### Varints -/

namespace Varint

theorem byte_cons (b : UInt8) (bs : Bytes) : Reader.byte (b :: bs) = .ok (b, bs) := by
  have htake : Reader.take 1 (b :: bs) = .ok ([b], bs) := @Reader.take_append 1 [b] rfl bs
  rw [Reader.byte, Reader.bind_of_ok htake]
  simp [ofBigEndian, byteWeight]

/-- The last digit of a spelling, as a reader that reads a byte first. -/
theorem readFrom_zero_eq : readFrom 0 = (do
    let b ← Reader.byte
    if 1 < b then throw .invalidVarint else return b.toNat : Reader Nat) := by
  funext bs
  cases bs with
  | nil => rfl
  | cons b bs =>
    rw [Reader.bind_of_ok (byte_cons b bs), readFrom]
    split <;> rfl

/-- Any other digit, likewise. -/
theorem readFrom_succ_eq (more : Nat) : readFrom (more + 1) = (do
    let b ← Reader.byte
    if b < 128 then return b.toNat else return b.toNat - 128 + 128 * (← readFrom more) :
      Reader Nat) := by
  funext bs
  cases bs with
  | nil => rfl
  | cons b bs =>
    rw [Reader.bind_of_ok (byte_cons b bs), readFrom]
    split
    · rfl
    · cases htail : readFrom more bs with
      | error e => rw [Reader.bind_of_error htail]
      | ok p => rw [Reader.bind_of_ok htail, Reader.pure_run]

theorem built_readFrom (more : Nat) : Reader.Built (readFrom more) := by
  induction more with
  | zero =>
    rw [readFrom_zero_eq]
    exact Reader.built_byte.bind fun b =>
      .ite (.refusal rfl) (Reader.Built.value b.toNat)
  | succ more ih =>
    rw [readFrom_succ_eq]
    exact Reader.built_byte.bind fun b => .ite (Reader.Built.value b.toNat) (ih.map _)

theorem read_eq : read = (do return UInt64.ofNat (← readFrom (maxBytes - 1)) : Reader UInt64) := by
  funext bs
  rw [read]
  cases hread : readFrom (maxBytes - 1) bs with
  | error e => rw [Reader.bind_of_error hread]
  | ok p => rw [Reader.bind_of_ok hread, Reader.pure_run]

end Varint

namespace Reader

theorem built_uvarint : uvarint.Built := by
  rw [uvarint, Varint.read_eq]
  exact (Varint.built_readFrom _).map _

theorem built_uvarint32 : uvarint32.Built :=
  built_uvarint.bind fun n => .ite (.value n.toUInt32) (.refusal rfl)

end Reader

/-! ### Tag buffers -/

namespace TagBuffer

theorem built_readField (last : Option UInt32) : (readField last).Built := by
  have hrest (tag : UInt32) : (do
      let size ← Reader.uvarint32
      let data ← Reader.take size.toNat
      return (⟨tag, data⟩ : TagField) : Reader TagField).Built :=
    Reader.built_uvarint32.bind fun size => (Reader.built_take size.toNat).map _
  refine Reader.built_uvarint32.bind fun tag => ?_
  cases last with
  | none => exact hrest tag
  | some last => exact Reader.Built.unless rfl (hrest tag)

/-- A run of fields as a reader that reads one of them first. -/
theorem readFieldsInto_succ_eq (n : Nat) (done : List TagField) :
    readFieldsInto (n + 1) done = (do
      let field ← readField (done.head?.map (·.tag))
      readFieldsInto n (field :: done) : Reader (List TagField)) := by
  funext bs
  rw [readFieldsInto]
  cases hfield : readField (done.head?.map (·.tag)) bs with
  | error e => rw [Reader.bind_of_error hfield]
  | ok p => rw [Reader.bind_of_ok hfield]

theorem built_readFieldsInto (n : Nat) (done : List TagField) :
    Reader.Built (readFieldsInto n done) := by
  induction n generalizing done with
  | zero => exact Reader.Built.value done.reverse
  | succ n ih =>
    rw [readFieldsInto_succ_eq]
    exact (built_readField _).bind fun field => ih (field :: done)

theorem built_read : read.Built := by
  refine Reader.built_uvarint.bind fun count => Reader.Built.unless rfl ?_
  exact (Reader.Built.demand _).bind fun _ => (built_readFieldsInto count.toNat []).map _

end TagBuffer

/-! ### Lengths, texts and byte strings -/

namespace Length

theorem built_readNumber (what : Counted) (form : Form) : (readNumber what form).Built := by
  cases form with
  | compact => exact Reader.built_uvarint.map _
  | classic =>
    cases what with
    | text => exact (Reader.built_fixed 2 _).map _
    | items | data => exact (Reader.built_fixed 4 _).map _

/-- The count of an array is compared with what is left, and still no refusal depends on it. -/
theorem built_read (what : Counted) (form : Form) : (read what form).Built := by
  refine (built_readNumber what form).bind fun number => ?_
  cases number with
  | none => exact Reader.Built.value none
  | some n =>
    have hcount : Reader.Built (if what = .items then
        Reader.require n.toNat >>= fun _ => pure (some n.toNat) else pure (some n.toNat)) :=
      .ite ((Reader.Built.demand n.toNat).map _) (Reader.Built.value _)
    exact Reader.Built.unless (c := n < 0 ∨ readLimit what < n) rfl hcount

theorem built_readPresent (what : Counted) (form : Form) : (readPresent what form).Built := by
  refine (built_read what form).bind fun length => ?_
  cases length with
  | none => exact Reader.Built.refusal rfl
  | some n => exact Reader.Built.value n

end Length

namespace Primitive

theorem built_takeText (length : Nat) : (takeText length).Built := by
  refine (Reader.built_take length).bind fun taken => ?_
  cases String.fromUTF8? taken.toByteArray with
  | none => exact Reader.Built.refusal rfl
  | some s => exact Reader.Built.value s

theorem built_readNullable {α : Type} {take : Nat → Reader α} (htake : ∀ n, (take n).Built)
    (what : Counted) (form : Form) : (readNullable what form take).Built := by
  refine (Length.built_read what form).bind fun length => ?_
  cases length with
  | none => exact Reader.Built.value none
  | some n => exact (htake n).map some

/-- **The readers of all primitive types are steady.** -/
theorem built_read (p : Primitive) : p.read.Built := by
  cases p with
  | bool => exact Reader.built_bool
  | int8 | int16 | int32 | int64 => exact Reader.built_fixed _ _
  | uvarint => exact Reader.built_uvarint
  | varint => exact Reader.built_uvarint.map unzigzag
  | uuid => exact Reader.Built.bytes 16
  | string form => exact (Length.built_readPresent .text form).bind built_takeText
  | nullableString form => exact built_readNullable built_takeText .text form
  | bytes form => exact (Length.built_readPresent .data form).bind Reader.built_take
  | nullableBytes form => exact built_readNullable Reader.built_take .data form
  | messageSet => exact built_readNullable Reader.built_take .data .classic
  | tagBuffer => exact TagBuffer.built_read

end Primitive

/-! ### Formats -/

/-- **The readers of all formats are built so.** -/
theorem Format.built_read {α : Type} (f : Format α) : f.read.Built := by
  induction f with
  | primitive p => exact p.built_read
  | array form items ih =>
    refine (Length.built_read .items form).bind fun length => ?_
    cases length with
    | none => exact Reader.Built.value []
    | some n => exact ih.count n
  | nullableArray form items ih =>
    refine (Length.built_read .items form).bind fun length => ?_
    cases length with
    | none => exact Reader.Built.value none
    | some n => exact (ih.count n).map some
  | pair first second ih₁ ih₂ => exact ih₁.bind fun x => ih₂.map (x, ·)
  | onlyIf present part absent ih =>
    cases present with
    | true => exact ih
    | false => exact Reader.Built.value absent
  | required part empty ih => exact ih.map some
  | record make fields hfields hmake parts ih => exact ih.map make

end KafkaWire
