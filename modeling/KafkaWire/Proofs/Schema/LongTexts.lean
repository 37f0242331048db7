import KafkaWire.Proofs.Schema.Conformance

/-!
# Structs that are read but not written

Reading and writing check the limits of arrays, byte strings and texts independently of each
other. They agree on all of them but one. A classic length of a text has 16 bits, and neither side
admits more. A compact length could hold more, **reading takes it** up to 31 bits, as for byte
strings, **and writing does not**. So a struct may be read that cannot be written again, and a
compact text is the only reason.

It is a sufficient reason, too. Every type has a value on the wire, so a compact text anywhere in a
schema, however deep, can be surrounded by values that make a struct of the schema, and that struct
is read. Hence the schemas of which every struct that is read can be written are exactly those
without a compact text.

## Main definitions

* `FieldType.boundsTexts`, `Schema.BoundsTexts` — no text of the type is compact

## Main results

* `FieldType.length_texts_of_read` — where no text is compact, those that were read can be written
* `FieldType.exists_spells` — every type has a value on the wire
* `FieldType.exists_long_spells` — and a type with a compact text has one with a long text
* `Schema.encode_of_decode` — which schemas, and which structs of the others, can be encoded again
-/

namespace KafkaWire

open Primitive (textBytes)

/-! ### Schemas without compact texts -/

/-- Whether the length of the text, if the type is one, has 16 bits. -/
def FieldType.boundsTexts : FieldType → Bool
  | .primitive (.string form) | .primitive (.nullableString form) => form = .classic
  | _ => true

/-- No text of the schema is compact. -/
def Schema.BoundsTexts (schema : Schema) : Prop := ∀ type ∈ schema.types, type.boundsTexts = true

/-- A classic text that was read can be written, and the other primitive values are no texts. -/
theorem Primitive.length_text_of_read {p : Primitive}
    (hp : (FieldType.primitive p).boundsTexts = true) {x : p.Carrier} {bs rest : Bytes}
    (h : p.read bs = .ok (x, rest)) :
    ∀ text ∈ p.kind.text? x, text.utf8ByteSize ≤ Counted.text.writeLimit := by
  intro text hmem
  by_cases hclassic : p.isClassic = true
  · obtain ⟨front, hfront, -⟩ := exact_read hclassic h
    have hfault := fault_write (readable_of_read h)
    rw [hfront.fault, hmem] at hfault
    exact textFault_eq_none.mp hfault.symm
  · cases p with
    | string form => exact absurd hp hclassic
    | nullableString form => exact absurd hp hclassic
    | _ => cases hmem

/-- Whatever holds of the value of each field that is read holds of all values of a struct. -/
theorem Field.forall_mem_of_readEach {P : Value → Prop} {fields : List Field}
    (hfield : ∀ field ∈ fields, ∀ {bs rest v}, field.read bs = .ok (v, rest) → P v)
    {bs rest : Bytes} {values : List Value} (h : readEach fields bs = .ok (values, rest)) :
    ∀ v ∈ values, P v := by
  induction fields generalizing bs values with
  | nil =>
    cases h
    exact fun _ hmem => nomatch hmem
  | cons f fields ih =>
    rw [readEach] at h
    obtain ⟨w, mid, hw, h⟩ := Reader.bind_eq_ok.mp h
    obtain ⟨ws, hws, rfl⟩ := Reader.bind_pure_eq_ok.mp h
    intro v hv
    rcases List.mem_cons.mp hv with rfl | hv
    · exact hfield f List.mem_cons_self hw
    · exact ih (fun g hg => hfield g (List.mem_cons_of_mem f hg)) hws v hv

theorem Schema.length_texts_of_fields {schema : Schema}
    (hfield : ∀ field ∈ schema.fields, ∀ {bs rest v}, field.read bs = .ok (v, rest) →
      ∀ text ∈ v.texts, text.utf8ByteSize ≤ Counted.text.writeLimit)
    {bs rest : Bytes} {s : Struct} (h : schema.read bs = .ok (s, rest)) :
    ∀ text ∈ s.texts, text.utf8ByteSize ≤ Counted.text.writeLimit := by
  rw [read_eq] at h
  obtain ⟨values, hvalues, rfl⟩ := Reader.bind_pure_eq_ok.mp h
  have heach := Field.forall_mem_of_readEach hfield hvalues
  intro text hmem
  rw [Struct.texts_eq, List.mem_flatMap] at hmem
  obtain ⟨v, hv, hmem⟩ := hmem
  exact heach v hv text hmem

/-- **Where no text is compact, every text that was read can be written.** -/
theorem FieldType.length_texts_of_read {type : FieldType}
    (bounds : ∀ t ∈ type.types, t.boundsTexts = true) {bs rest : Bytes} {v : Value}
    (h : type.read bs = .ok (v, rest)) :
    ∀ text ∈ v.texts, text.utf8ByteSize ≤ Counted.text.writeLimit := by
  induction type generalizing bs rest v with
  | primitive p =>
    obtain ⟨x, hx, rfl⟩ := Reader.bind_pure_eq_ok.mp h
    have hbound := Primitive.length_text_of_read (bounds _ List.mem_cons_self) hx
    intro text hmem
    refine hbound text ?_
    simpa [Value.texts, Value.contents, Value.text?] using hmem
  | array form items ih =>
    have hitems : ∀ t ∈ items.types, t.boundsTexts = true :=
      fun t ht => bounds t (List.mem_cons_of_mem _ ht)
    obtain ⟨length, mid, hlength, h⟩ := Reader.bind_eq_ok.mp h
    cases length with
    | none =>
      cases h
      intro text hmem
      exact absurd hmem List.not_mem_nil
    | some n =>
      obtain ⟨vs, hvs, rfl⟩ := Reader.bind_pure_eq_ok.mp h
      have heach := Reader.forall_of_count (ih hitems) hvs
      intro text hmem
      rw [Value.texts_array, List.mem_flatMap] at hmem
      obtain ⟨v, hv, hmem⟩ := hmem
      exact heach v hv text hmem
  | struct schema ih =>
    obtain ⟨s, hs, rfl⟩ := Reader.bind_pure_eq_ok.mp h
    rw [Value.texts_struct]
    refine Schema.length_texts_of_fields (fun field hmem => ?_) hs
    intro bs rest v hv
    rw [Field.read_eq] at hv
    have htypes : ∀ t ∈ field.type.types, t.boundsTexts = true :=
      fun t ht => bounds t (List.mem_cons_of_mem _ (Schema.types_subset hmem ht))
    exact ih field hmem htypes hv

theorem Schema.length_texts_of_decode {schema : Schema} {bs : Bytes} {s : Struct}
    (bounds : schema.BoundsTexts) (h : schema.decode bs = .ok s) :
    ∀ text ∈ s.texts, text.utf8ByteSize ≤ Counted.text.writeLimit := by
  refine length_texts_of_fields (fun field hmem => ?_) (decode_eq_ok.mp h)
  intro bs rest v hv
  rw [Field.read_eq] at hv
  exact FieldType.length_texts_of_read (fun t ht => bounds t (Schema.types_subset hmem ht)) hv

/-! ### Values on the wire -/

/-- A value of a kind, written as few bytes. -/
def Primitive.Kind.plain : (kind : Primitive.Kind) → kind.Carrier
  | .bool => false
  | .int8 | .int16 | .int32 | .int64 | .uvarint | .varint => 0
  | .uuid => Uuid.zero
  | .string => ""
  | .nullableString | .nullableBytes => none
  | .bytes => []
  | .tagBuffer => {}

theorem Primitive.spells_plain (p : Primitive) :
    p.read.Spells (p.write p.kind.plain).bytes p.kind.plain := by
  have hlimits : p.kind.WithinLimits p.kind.plain := by
    cases p with
    | tagBuffer => decide
    | _ => trivial
  have hfault : (p.write p.kind.plain).fault = none := by
    cases p with
    | string form | nullableString form | bytes form | nullableBytes form => cases form <;> rfl
    | _ => rfl
  exact fun rest => read_write hlimits ⟨hfault, rfl⟩ rest

theorem Field.exists_readEach_spells {fields : List Field}
    (hfield : ∀ field ∈ fields, ∃ bs v, field.read.Spells bs v) :
    ∃ bs values, (readEach fields).Spells bs values := by
  induction fields with
  | nil => exact ⟨[], [], fun rest => rfl⟩
  | cons field fields ih =>
    obtain ⟨bs, v, hv⟩ := hfield field List.mem_cons_self
    obtain ⟨bs', vs, hvs⟩ := ih fun g hg => hfield g (List.mem_cons_of_mem field hg)
    refine ⟨bs ++ bs', v :: vs, ?_⟩
    rw [readEach]
    exact hv.bind (hvs.map (v :: ·))

/-- **Every type has a value on the wire.** -/
theorem FieldType.exists_spells (type : FieldType) : ∃ bs v, type.read.Spells bs v := by
  induction type with
  | primitive p => exact ⟨_, _, p.spells_plain.map _⟩
  | array form items ih =>
    have hwrites : (Length.write .items form 0).Writes (Length.write .items form 0).bytes := by
      cases form <;> exact ⟨rfl, rfl⟩
    have hcount : (Length.read .items form).Spells (Length.write .items form 0).bytes (some 0) :=
      fun rest => Length.read_write hwrites (Nat.zero_le _) fun _ => Nat.zero_le _
    refine ⟨(Length.write .items form 0).bytes ++ [], .array (some []), hcount.bind ?_⟩
    exact fun rest => rfl
  | struct schema ih =>
    have hfields : ∀ field ∈ schema.fields, ∃ bs v, field.read.Spells bs v := by
      intro field hmem
      rw [Field.read_eq]
      exact ih field hmem
    obtain ⟨bs, values, hvalues⟩ := Field.exists_readEach_spells hfields
    refine ⟨bs, .struct ⟨schema, values⟩, ?_⟩
    rw [read, Schema.read_eq]
    exact (hvalues.map (Struct.mk schema)).map Value.struct

/-! ### A text between the limits -/

/-- A compact length is read up to the limit of reading, whatever may be written. -/
theorem Length.spells_compact {what : Counted} {n : Nat} (hwhat : what ≠ .items)
    (hn : n ≤ readLimit what) :
    (read what .compact).Spells (Chunk.uvarint (UInt64.ofNat (n + 1))).bytes (some n) := by
  intro rest
  have hlimit : readLimit what ≤ 0x7fffffff := by cases what <;> decide
  have hval : (UInt64.ofNat (n + 1)).toNat = n + 1 := by
    rw [UInt64.toNat_ofNat']
    omega
  have hne : UInt64.ofNat (n + 1) ≠ 0 := by
    intro h0
    rw [h0] at hval
    exact absurd hval (by simp)
  have hnumber : readNumber what .compact ((Chunk.uvarint (UInt64.ofNat (n + 1))).bytes ++ rest) =
      .ok (some (n : Int), rest) := by
    rw [Chunk.bytes]
    simp only [readNumber]
    rw [Reader.bind_of_ok (Reader.uvarint_append _ rest), if_neg hne, hval, Nat.add_sub_cancel,
      Reader.pure_run]
  have hok : ¬ ((n : Int) < 0 ∨ (readLimit what : Int) < n) := by omega
  rw [read, Reader.bind_of_ok hnumber]
  simp only [hok, hwhat, if_false, Int.toNat_natCast]
  rfl

namespace Primitive

/-- The bytes of a compact text, of any length. -/
def compactBytes (text : String) : Bytes :=
  (Chunk.uvarint (UInt64.ofNat (text.utf8ByteSize + 1))).bytes ++ textBytes text

theorem compactBytes_ne_nil (text : String) : compactBytes text ≠ [] := by
  intro hnil
  exact Varint.bytes_ne_nil _ (List.append_eq_nil_iff.mp hnil).1

section Long

variable {text : String} (hread : text.utf8ByteSize ≤ Length.readLimit .text)

include hread

theorem spells_compact : (string .compact).read.Spells (compactBytes text) text := by
  have hlength := Length.spells_compact (by decide : Counted.text ≠ .items) hread
  have hpresent : (Length.readPresent .text .compact).Spells
      (Chunk.uvarint (UInt64.ofNat (text.utf8ByteSize + 1))).bytes text.utf8ByteSize := by
    intro rest
    rw [Length.readPresent, Reader.bind_of_ok (hlength rest)]
    rfl
  exact hpresent.bind fun rest => takeText_append rfl rest

theorem spells_compact_nullable :
    (nullableString .compact).read.Spells (compactBytes text) (some text) := by
  have hlength := Length.spells_compact (by decide : Counted.text ≠ .items) hread
  have htake : (takeText text.utf8ByteSize).Spells (textBytes text) text :=
    fun rest => takeText_append rfl rest
  exact hlength.bind (htake.map some)

end Long

/-- The letter `a`, so many times. -/
def letters (n : Nat) : String := String.ofList (List.replicate n 'a')

theorem textBytes_letters (n : Nat) : textBytes (letters n) = List.replicate n 0x61 := by
  have hletter : String.utf8EncodeChar 'a' = [0x61] := by decide
  show (List.replicate n 'a').utf8Encode.data.toList = _
  rw [List.utf8Encode, List.data_toByteArray, List.toList_toArray]
  induction n with
  | zero => rfl
  | succ n ih =>
    rw [List.replicate_succ, List.flatMap_cons, hletter, ih]
    rfl

theorem utf8ByteSize_letters (n : Nat) : (letters n).utf8ByteSize = n := by
  rw [← length_textBytes, textBytes_letters, List.length_replicate]

/-- The shortest text that cannot be written can still be read in compact form. -/
theorem letters_between : Counted.text.writeLimit < (letters 0x8000).utf8ByteSize ∧
    (letters 0x8000).utf8ByteSize ≤ Length.readLimit .text := by
  rw [utf8ByteSize_letters]
  decide

end Primitive

open Primitive (letters letters_between)

/-- The value has a text that writing does not admit. -/
def Value.HasLongText (v : Value) : Prop :=
  ∃ text ∈ v.texts, Counted.text.writeLimit < text.utf8ByteSize

theorem Value.HasLongText.array {v : Value} {vs : List Value} (h : v.HasLongText) (hmem : v ∈ vs) :
    (Value.array (some vs)).HasLongText := by
  obtain ⟨text, htext, hlong⟩ := h
  refine ⟨text, ?_, hlong⟩
  rw [texts_array]
  exact List.mem_flatMap.mpr ⟨v, hmem, htext⟩

theorem Value.HasLongText.struct {v : Value} {s : Struct} (h : v.HasLongText)
    (hmem : v ∈ s.values) : (Value.struct s).HasLongText := by
  obtain ⟨text, htext, hlong⟩ := h
  refine ⟨text, ?_, hlong⟩
  rw [texts_struct, Struct.texts_eq]
  exact List.mem_flatMap.mpr ⟨v, hmem, htext⟩

theorem Schema.mem_types {schema : Schema} {type : FieldType} (h : type ∈ schema.types) :
    ∃ field ∈ schema.fields, type ∈ field.type.types := by
  obtain ⟨name, fields⟩ := schema
  rw [types] at h
  induction fields with
  | nil => cases h
  | cons field fields ih =>
    obtain ⟨name, type'⟩ := field
    rw [Field.typesEach] at h
    rcases List.mem_append.mp h with h | h
    · exact ⟨⟨name, type'⟩, List.mem_cons_self, h⟩
    · obtain ⟨field, hmem, htype⟩ := ih h
      exact ⟨field, List.mem_cons_of_mem _ hmem, htype⟩

/-- A value of one field can be surrounded by values of the others. -/
theorem Field.exists_readEach_spells_mem {fields : List Field} {field : Field}
    (hmem : field ∈ fields) {bs : Bytes} {v : Value} (hne : bs ≠ []) (h : field.read.Spells bs v) :
    ∃ bs values, bs ≠ [] ∧ (readEach fields).Spells bs values ∧ v ∈ values := by
  have hothers (g : Field) : ∃ bs v, g.read.Spells bs v := by
    rw [read_eq]
    exact g.type.exists_spells
  induction fields with
  | nil => cases hmem
  | cons f fields ih =>
    rcases List.mem_cons.mp hmem with rfl | hmem
    · obtain ⟨bs', vs, hvs⟩ : ∃ bs vs, (readEach fields).Spells bs vs :=
        exists_readEach_spells fun g _ => hothers g
      refine ⟨bs ++ bs', v :: vs, by simp [hne], ?_, List.mem_cons_self⟩
      rw [readEach]
      exact h.bind (hvs.map (v :: ·))
    · obtain ⟨bs', w, hw⟩ := hothers f
      obtain ⟨bs'', vs, hne, hvs, hv⟩ := ih hmem
      refine ⟨bs' ++ bs'', w :: vs, by simp [hne], ?_, List.mem_cons_of_mem w hv⟩
      rw [readEach]
      exact hw.bind (hvs.map (w :: ·))

/-- **A type with a compact text has a value with a long one.** -/
theorem FieldType.exists_long_spells {type t : FieldType} (hmem : t ∈ type.types)
    (hcompact : t.boundsTexts = false) : ∃ bs v, bs ≠ [] ∧ type.read.Spells bs v ∧
      v.HasLongText := by
  obtain ⟨hlong, hlimit⟩ := letters_between
  induction type with
  | primitive p =>
    obtain rfl := List.mem_singleton.mp hmem
    cases p with
    | string form =>
      obtain rfl : form = .compact := by cases form <;> simp_all [boundsTexts]
      refine ⟨_, .string (letters 0x8000), Primitive.compactBytes_ne_nil _,
        (Primitive.spells_compact hlimit).map _, letters 0x8000, List.mem_singleton.mpr rfl, hlong⟩
    | nullableString form =>
      obtain rfl : form = .compact := by cases form <;> simp_all [boundsTexts]
      refine ⟨_, .nullableString (some (letters 0x8000)), Primitive.compactBytes_ne_nil _,
        (Primitive.spells_compact_nullable hlimit).map _, letters 0x8000,
        List.mem_singleton.mpr rfl, hlong⟩
    | _ => cases hcompact
  | array form items ih =>
    have hitems : t ∈ items.types := by
      rcases List.mem_cons.mp hmem with rfl | hmem
      · cases hcompact
      · exact hmem
    obtain ⟨bs, v, hne, hv, hv_long⟩ := ih hitems
    have hwrites : (Length.write .items form 1).Writes (Length.write .items form 1).bytes := by
      cases form <;> exact ⟨rfl, rfl⟩
    refine ⟨(Length.write .items form 1).bytes ++ bs, .array (some [v]), by simp [hne], ?_,
      hv_long.array List.mem_cons_self⟩
    intro rest
    -- the count is checked against what follows, of which there is at least one byte
    have henough : 1 ≤ (bs ++ rest).length := by
      have hpos := List.length_pos_iff.mpr hne
      rw [List.length_append]
      omega
    have hcount := Length.read_write hwrites (by decide) fun _ => henough
    have hitem : Reader.count 1 items.read (bs ++ rest) = .ok ([v], rest) :=
      Reader.count_of_ok (hv rest) (Reader.count_zero _ _)
    rw [List.append_assoc, read, Reader.bind_of_ok hcount]
    exact Reader.bind_pure_eq_ok.mpr ⟨[v], hitem, rfl⟩
  | struct schema ih =>
    have hfields : t ∈ schema.types := by
      rcases List.mem_cons.mp hmem with rfl | hmem
      · cases hcompact
      · exact hmem
    obtain ⟨field, hfield, htype⟩ := Schema.mem_types hfields
    obtain ⟨bs, v, hne, hv, hv_long⟩ := ih field hfield htype
    rw [← Field.read_eq] at hv
    obtain ⟨bs', values, hne', hvalues, hv_mem⟩ := Field.exists_readEach_spells_mem hfield hne hv
    refine ⟨bs', .struct ⟨schema, values⟩, hne', ?_, hv_long.struct hv_mem⟩
    rw [read, Schema.read_eq]
    exact (hvalues.map (Struct.mk schema)).map Value.struct

/-! ### Decoded structs -/

namespace Schema

theorem exists_decode_long {schema : Schema} {t : FieldType} (hmem : t ∈ schema.types)
    (hcompact : t.boundsTexts = false) : ∃ bs s, schema.decode bs = .ok s ∧
      ∃ text ∈ s.texts, Counted.text.writeLimit < text.utf8ByteSize := by
  have hstruct : t ∈ (FieldType.struct schema).types := List.mem_cons_of_mem _ hmem
  obtain ⟨bs, v, -, hv, text, htext, hlong⟩ := FieldType.exists_long_spells hstruct hcompact
  have hread := hv []
  rw [List.append_nil] at hread
  obtain ⟨s, hs, rfl⟩ := Reader.bind_pure_eq_ok.mp hread
  rw [Value.texts_struct] at htext
  exact ⟨bs, s, decode_eq_ok.mpr hs, text, htext, hlong⟩

/-- **Which decoded structs can be encoded again**: all of them exactly if no text of the schema
is compact, and of any schema those without a text above the limit of writing, the first of which
is the error of the others. -/
theorem encode_of_decode (schema : Schema) :
    ((∀ bs s, schema.decode bs = .ok s → ∃ out, schema.encode s = .ok out) ↔
      schema.BoundsTexts) ∧
    ∀ bs s, schema.decode bs = .ok s →
      ((∃ out, schema.encode s = .ok out) ↔
        ∀ text ∈ s.texts, text.utf8ByteSize ≤ Counted.text.writeLimit) ∧
      ∀ e, schema.encode s = .error e → ∃ text ∈ s.texts,
        Counted.text.writeLimit < text.utf8ByteSize ∧
          e = .packetEncoding (.tooLong .text text.utf8ByteSize) := by
  have hstruct : ∀ bs s, schema.decode bs = .ok s → s.schema = schema ∧ s.Conforms :=
    fun bs s decoded => conforms_of_read (decode_eq_ok.mp decoded)
  refine ⟨⟨?_, ?_⟩, ?_⟩
  · intro hencode t hmem
    cases hcompact : t.boundsTexts with
    | true => rfl
    | false =>
      obtain ⟨bs, s, decoded, text, htext, hlong⟩ := exists_decode_long hmem hcompact
      obtain ⟨rfl, hconforms⟩ := hstruct bs s decoded
      have hshort := hconforms.encode_iff.mp (hencode bs s decoded) text htext
      exact absurd hlong (Nat.not_lt.mpr hshort)
  · intro bounds bs s decoded
    obtain ⟨rfl, hconforms⟩ := hstruct bs s decoded
    exact hconforms.encode_iff.mpr (length_texts_of_decode bounds decoded)
  · intro bs s decoded
    obtain ⟨rfl, hconforms⟩ := hstruct bs s decoded
    exact ⟨hconforms.encode_iff, fun e he => hconforms.long_of_encode_eq_error he⟩

/-- A single compact text. -/
def caption : Schema := ⟨"caption", [⟨"text", .primitive (.string .compact)⟩]⟩

/-- The shortest text that is read and not written, in the smallest schema that has one. -/
theorem not_encode_of_decode_caption :
    let bs : Bytes := [0x81, 0x80, 0x02] ++ List.replicate 0x8000 0x61
    let s : Struct := ⟨caption, [.string (letters 0x8000)]⟩
    caption.decode bs = .ok s ∧
      caption.encode s = .error (.packetEncoding (.tooLong .text 0x8000)) ∧
      ¬ ∃ out, caption.encode s = .ok out := by
  intro bs s
  have hsize : (letters 0x8000).utf8ByteSize = 0x8000 := Primitive.utf8ByteSize_letters 0x8000
  have hbytes : Primitive.compactBytes (letters 0x8000) = bs := by
    have hlength : (Chunk.uvarint (UInt64.ofNat (0x8000 + 1))).bytes = [0x81, 0x80, 0x02] := rfl
    rw [Primitive.compactBytes, hsize, hlength, Primitive.textBytes_letters]
  have htext : (Primitive.string .compact).read bs = .ok (letters 0x8000, []) := by
    have hspells := Primitive.spells_compact letters_between.2 []
    rwa [List.append_nil, hbytes] at hspells
  have hread : caption.read bs = .ok (s, []) := by
    refine read_of_ok (Reader.bind_eq_ok.mpr ⟨.string (letters 0x8000), [], ?_, rfl⟩)
    exact Reader.bind_pure_eq_ok.mpr ⟨letters 0x8000, htext, rfl⟩
  have hrefused : caption.encode s = .error (.packetEncoding (.tooLong .text 0x8000)) := by
    have htexts : s.texts = [letters 0x8000] := rfl
    rw [encode, if_pos rfl, Output.encode_eq_error, (conforms_of_read hread).2.fault_write, htexts,
      List.findSome?_singleton, Primitive.textFault_eq_some, hsize]
    exact ⟨by decide, rfl⟩
  refine ⟨decode_eq_ok.mpr hread, hrefused, ?_⟩
  rintro ⟨out, hout⟩
  rw [hrefused] at hout
  cases hout

end Schema

end KafkaWire
