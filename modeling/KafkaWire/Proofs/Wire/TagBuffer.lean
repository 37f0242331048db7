import KafkaWire.Proofs.Wire.Varint
import KafkaWire.Proofs.Wire.Written
import KafkaWire.Wire.TagBuffer

/-!
# Tag buffers come back

A tag buffer is written as it stands, but read with suspicion: not too many fields, tags that
ascend, sizes that fit in 32 bits. Exactly the buffers within these limits survive the trip.

The reader keeps the fields already read, last first, and compares each tag with the newest of
them, so the statement about a run is made for any fields already read that lie below the rest.

## Main definitions

* `TagBuffer.WithinLimits` — what reading demands of a buffer

## Main results

* `TagBuffer.read_write` — a buffer within the limits is read back
* `TagBuffer.readField_eq_ok`, `TagBuffer.read_eq_ok` — what was read, taken apart
* `TagBuffer.read_sound` — and no other buffer is ever read
-/

namespace KafkaWire

namespace TagBuffer

/-- The limits that reading holds a tag buffer to. -/
structure WithinLimits (t : TagBuffer) : Prop where
  /-- There are not too many fields. -/
  size_le : t.fields.length ≤ maxItems
  /-- Their tags strictly ascend. -/
  ascending : t.fields.Pairwise fun f g => f.tag < g.tag
  /-- The size of each fits in 32 bits. -/
  data_lt : ∀ field ∈ t.fields, field.data.length < UInt32.size

instance (t : TagBuffer) : Decidable t.WithinLimits :=
  decidable_of_iff (t.fields.length ≤ maxItems ∧ (t.fields.Pairwise fun f g => f.tag < g.tag) ∧
      ∀ field ∈ t.fields, field.data.length < UInt32.size)
    ⟨fun h => ⟨h.1, h.2.1, h.2.2⟩, fun h => ⟨h.size_le, h.ascending, h.data_lt⟩⟩

/-! ### One field -/

/-- The three parts of a written field. -/
theorem writes_writeField {field : TagField} {bs : Bytes} (h : (writeField field).Writes bs) :
    bs = Varint.bytes field.tag.toUInt64 ++
      (Varint.bytes (UInt64.ofNat field.data.length) ++ field.data) := by
  simp only [writeField, Output.writes_append, Output.writes_chunk, Chunk.bytes] at h
  obtain ⟨_, _, ⟨_, _, rfl, rfl, rfl⟩, rfl, rfl⟩ := h
  exact List.append_assoc _ _ _

/-- Tag and size take at least a byte each. -/
theorem two_le_length_of_writes_writeField {field : TagField} {bs : Bytes}
    (h : (writeField field).Writes bs) : 2 ≤ bs.length := by
  have htag := List.length_pos_iff.mpr (Varint.bytes_ne_nil field.tag.toUInt64)
  have hsize := List.length_pos_iff.mpr (Varint.bytes_ne_nil (UInt64.ofNat field.data.length))
  rw [writes_writeField h, List.length_append, List.length_append]
  omega

theorem readField_write {field : TagField} {last : Option UInt32} {bs : Bytes}
    (hlast : ∀ tag, last = some tag → tag < field.tag) (hdata : field.data.length < UInt32.size)
    (h : (writeField field).Writes bs) (rest : Bytes) :
    readField last (bs ++ rest) = .ok (field, rest) := by
  have htag : field.tag.toUInt64.toNat < UInt32.size := by
    rw [UInt32.toNat_toUInt64]
    exact field.tag.toNat_lt
  have hlength : field.data.length < 0x100000000 := hdata
  have hsize : (UInt64.ofNat field.data.length).toNat = field.data.length := by
    rw [UInt64.toNat_ofNat']
    omega
  have hsize32 : (UInt64.ofNat field.data.length).toNat < UInt32.size := by
    rw [hsize]
    exact hdata
  have hsize' : (UInt64.ofNat field.data.length).toUInt32.toNat = field.data.length := by
    rw [UInt64.toNat_toUInt32, hsize]
    omega
  have hbody (tag : UInt32) : (do
      let size ← Reader.uvarint32
      let data ← Reader.take size.toNat
      return (⟨tag, data⟩ : TagField) : Reader TagField)
        (Varint.bytes (UInt64.ofNat field.data.length) ++ (field.data ++ rest)) =
      .ok (⟨tag, field.data⟩, rest) := by
    rw [Reader.bind_of_ok (Reader.uvarint32_append hsize32 _),
      Reader.bind_of_ok (Reader.take_append hsize'.symm rest), Reader.pure_run]
  rw [writes_writeField h, List.append_assoc, List.append_assoc, readField,
    Reader.bind_of_ok (Reader.uvarint32_append htag _), UInt32.toUInt32_toUInt64]
  cases last with
  | none => exact hbody field.tag
  | some tag =>
    have hle : ¬ field.tag ≤ tag := UInt32.not_le.mpr (hlast tag rfl)
    simp only [hle, if_false]
    exact hbody field.tag

/-! ### A run of fields -/

theorem fault_writeField (field : TagField) : (writeField field).fault = none := rfl

theorem fault_write (t : TagBuffer) : t.write.fault = none := by
  have hnone : (t.fields.findSome? fun field => (writeField field).fault) = none := by
    simp [fault_writeField]
  simp [write, Output.fault_forEach, hnone, Output.chunk]

/-- **A run of fields comes back** behind those already read, if these all lie below. -/
theorem readFieldsInto_write {fields : List TagField} {bs : Bytes} (done : List TagField)
    (hdone : ∀ last ∈ done.head?, ∀ field ∈ fields, last.tag < field.tag)
    (hasc : fields.Pairwise fun f g => f.tag < g.tag)
    (hdata : ∀ field ∈ fields, field.data.length < UInt32.size)
    (h : (Output.forEach writeField fields).Writes bs) (rest : Bytes) :
    readFieldsInto fields.length done (bs ++ rest) = .ok (done.reverse ++ fields, rest) := by
  induction fields generalizing done bs with
  | nil =>
    rw [Output.forEach_nil, Output.writes_empty] at h
    subst h
    simp [readFieldsInto]
  | cons field fields ih =>
    rw [Output.forEach_cons, Output.writes_append] at h
    obtain ⟨front, back, hfield, hfields, rfl⟩ := h
    rw [List.pairwise_cons] at hasc
    have hlast : ∀ tag, done.head?.map (·.tag) = some tag → tag < field.tag := by
      intro tag htag
      obtain ⟨last, hmem, rfl⟩ := Option.map_eq_some_iff.mp htag
      exact hdone last hmem field List.mem_cons_self
    have hstep := readField_write hlast (hdata field List.mem_cons_self) hfield (back ++ rest)
    rw [List.length_cons, readFieldsInto, List.append_assoc, hstep]
    -- the field just read is now the newest, and the rest lies above it
    have htail := ih (field :: done) (by simpa using hasc.1) hasc.2
      (fun g hg => hdata g (List.mem_cons_of_mem field hg)) hfields
    simpa using htail

/-- **A tag buffer within the limits comes back.** -/
theorem read_write {t : TagBuffer} {bs : Bytes} (ht : t.WithinLimits) (h : t.write.Writes bs)
    (rest : Bytes) : read (bs ++ rest) = .ok (t, rest) := by
  obtain ⟨front, back, hcount, hfields, rfl⟩ := Output.writes_append.mp h
  rw [Output.writes_chunk, Chunk.bytes] at hcount
  subst hcount
  have hsize : (UInt64.ofNat t.fields.length).toNat = t.fields.length := by
    have hle := ht.size_le
    rw [maxItems] at hle
    rw [UInt64.toNat_ofNat']
    omega
  have henough : 2 * t.fields.length ≤ (back ++ rest).length := by
    have hle := Output.mul_length_le_of_writes_forEach
      (fun _ _ _ hfield => two_le_length_of_writes_writeField hfield) hfields
    rw [List.length_append]
    omega
  have hrun := readFieldsInto_write [] (by simp) ht.ascending ht.data_lt hfields rest
  rw [List.append_assoc, read, Reader.bind_of_ok (Reader.uvarint_append _ _), hsize]
  simp only [Nat.not_lt.mpr ht.size_le, if_false]
  rw [Reader.bind_of_ok (Reader.require_of_le henough),
    Reader.bind_of_ok (show (readFieldsInto t.fields.length [] : Reader (List TagField))
      (back ++ rest) = .ok (t.fields, rest) from hrun), Reader.pure_run]

theorem not_writes_nil (t : TagBuffer) : ¬ t.write.Writes [] := by
  intro h
  obtain ⟨front, back, hcount, _, hnil⟩ := Output.writes_append.mp h
  rw [Output.writes_chunk, Chunk.bytes] at hcount
  rw [List.append_eq_nil_iff, ← hcount] at hnil
  exact Varint.bytes_ne_nil _ hnil.1

/-! ### Runs taken apart -/

/-- A field that was read: a tag above the one before it, a size, and so many bytes. -/
theorem readField_eq_ok {last : Option UInt32} {field : TagField} {bs rest : Bytes}
    (h : readField last bs = .ok (field, rest)) : ∃ size mid mid',
      Reader.uvarint32 bs = .ok (field.tag, mid) ∧ Reader.uvarint32 mid = .ok (size, mid') ∧
      Reader.take size.toNat mid' = .ok (field.data, rest) ∧
      ∀ tag, last = some tag → tag < field.tag := by
  obtain ⟨tag, mid, htag, h⟩ := Reader.bind_eq_ok.mp h
  have hread : (Reader.uvarint32 >>= fun size => Reader.take size.toNat >>= fun data =>
      pure (⟨tag, data⟩ : TagField)) mid = .ok (field, rest) ∧
      ∀ t, last = some t → t < tag := by
    cases last with
    | none => exact ⟨h, fun _ ht => nomatch ht⟩
    | some last =>
      simp only at h
      split at h
      · obtain ⟨_, _, hthrow, -⟩ := Reader.bind_eq_ok.mp h
        cases hthrow
      · rename_i hlt
        refine ⟨h, ?_⟩
        rintro t ⟨rfl⟩
        exact UInt32.not_le.mp hlt
  obtain ⟨hrest, hlast⟩ := hread
  obtain ⟨size, mid', hsize, hrest⟩ := Reader.bind_eq_ok.mp hrest
  obtain ⟨data, hdata, rfl⟩ := Reader.bind_pure_eq_ok.mp hrest
  exact ⟨size, mid, mid', htag, hsize, hdata, hlast⟩

/-- A run of `n + 1` fields reads one above the newest, and then `n`. -/
theorem readFieldsInto_succ_eq_ok {n : Nat} {done fields : List TagField} {bs rest : Bytes}
    (h : readFieldsInto (n + 1) done bs = .ok (fields, rest)) : ∃ field mid,
      readField (done.head?.map (·.tag)) bs = .ok (field, mid) ∧
      readFieldsInto n (field :: done) mid = .ok (fields, rest) := by
  rw [readFieldsInto] at h
  cases hfield : readField (done.head?.map (·.tag)) bs with
  | error e => simp [hfield] at h
  | ok p =>
    obtain ⟨field, mid⟩ := p
    simp only [hfield] at h
    exact ⟨field, mid, rfl, h⟩

/-- A buffer that was read: a count within the limit, and so many fields. -/
theorem read_eq_ok {t : TagBuffer} {bs rest : Bytes} (h : read bs = .ok (t, rest)) :
    ∃ count mid, Reader.uvarint bs = .ok (count, mid) ∧ count.toNat ≤ maxItems ∧
      readFieldsInto count.toNat [] mid = .ok (t.fields, rest) := by
  obtain ⟨count, mid, hcount, h⟩ := Reader.bind_eq_ok.mp h
  by_cases hlimit : maxItems < count.toNat
  · simp only [hlimit, if_true] at h
    obtain ⟨_, _, hthrow, -⟩ := Reader.bind_eq_ok.mp h
    cases hthrow
  · simp only [hlimit, if_false] at h
    obtain ⟨_, mid', hrequire, hrun⟩ := Reader.bind_eq_ok.mp h
    obtain rfl := Reader.require_eq_ok hrequire
    obtain ⟨fields, hfields, rfl⟩ := Reader.bind_pure_eq_ok.mp hrun
    exact ⟨count, mid', hcount, Nat.not_lt.mp hlimit, hfields⟩

/-! ### Nothing else is read -/

/-- A field that was read exceeds the one before it, and its data are as long as 32 bits allow. -/
theorem readField_sound {last : Option UInt32} {field : TagField} {bs rest : Bytes}
    (h : readField last bs = .ok (field, rest)) :
    (∀ tag, last = some tag → tag < field.tag) ∧ field.data.length < UInt32.size := by
  obtain ⟨size, _, _, -, -, hdata, hlast⟩ := readField_eq_ok h
  refine ⟨hlast, ?_⟩
  rw [(Reader.take_eq_ok hdata).1]
  exact size.toNat_lt

theorem readFieldsInto_sound {n : Nat} {done fields : List TagField} {bs rest : Bytes}
    (hdone : done.Pairwise fun f g => g.tag < f.tag)
    (hdata : ∀ field ∈ done, field.data.length < UInt32.size)
    (h : readFieldsInto n done bs = .ok (fields, rest)) :
    fields.length = done.length + n ∧ (fields.Pairwise fun f g => f.tag < g.tag) ∧
      ∀ field ∈ fields, field.data.length < UInt32.size := by
  induction n generalizing done bs with
  | zero =>
    cases h
    refine ⟨List.length_reverse, List.pairwise_reverse.mpr hdone, fun field hmem => ?_⟩
    exact hdata field (List.mem_reverse.mp hmem)
  | succ n ih =>
    obtain ⟨field, mid, hfield, hrun⟩ := readFieldsInto_succ_eq_ok h
    obtain ⟨hlast, hlen⟩ := readField_sound hfield
    have hnew : (field :: done).Pairwise fun f g => g.tag < f.tag := by
      refine List.pairwise_cons.mpr ⟨fun g hg => ?_, hdone⟩
      cases done with
      | nil => cases hg
      | cons newest older =>
        have hnewest : newest.tag < field.tag := hlast newest.tag rfl
        rcases List.mem_cons.mp hg with rfl | hg
        · exact hnewest
        · exact UInt32.lt_trans (List.rel_of_pairwise_cons hdone hg) hnewest
    have hlengths : ∀ f ∈ field :: done, f.data.length < UInt32.size := by
      intro f hf
      rcases List.mem_cons.mp hf with rfl | hf
      · exact hlen
      · exact hdata f hf
    obtain ⟨hcount, hsorted, hall⟩ := ih hnew hlengths hrun
    refine ⟨?_, hsorted, hall⟩
    rw [hcount, List.length_cons]
    omega

/-- **A buffer that was read is within the limits**, all three of them. -/
theorem read_sound {t : TagBuffer} {bs rest : Bytes} (h : read bs = .ok (t, rest)) :
    t.WithinLimits := by
  obtain ⟨count, mid, -, hlimit, hfields⟩ := read_eq_ok h
  obtain ⟨hlen, hsorted, hdata⟩ :=
    readFieldsInto_sound .nil (fun f hf => absurd hf List.not_mem_nil) hfields
  refine ⟨?_, hsorted, hdata⟩
  rw [hlen, List.length_nil]
  omega

end TagBuffer

end KafkaWire
